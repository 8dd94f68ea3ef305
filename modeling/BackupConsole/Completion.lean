import BackupConsole.Client

set_option autoImplicit false

namespace BackupConsole.Completion

def defaultTimeout : Float := 3.0

def lesser (a b : Float) : Float := if b < a then b else a

def fetchNames (files : Files) (s : Settings) (timeout : Float) (c : Coordinator) :
    Run (List (String × String)) := do
  let s := { s with connectTimeout := lesser s.connectTimeout timeout }
  let entries ← Channel.withOpen files s c.readiness fun interceptors =>
    Stream.within timeout "available backups"
      (fun backups => Client.send interceptors .stream c.metadata .backupsMetadata []
        (Stream.drain "available backups" Client.backupEntry backups)) c.backups
  let latest := Mapping.ofPairs (· == ·) (entries.map fun e => (e.filename, e.description))
  return latest.mergeSort fun a b => !decide (b.1 < a.1)

end BackupConsole.Completion
