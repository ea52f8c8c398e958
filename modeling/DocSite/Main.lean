import DocSite.Command.Run

/-!
# The program

The program works on a picture of the files below the working folder: it takes the picture, runs the
command on it, and then writes what the command has changed. A server that was started reads its requests
from the standard input and writes its answers to the standard output, until there are no more.
-/

namespace DocSite

open Files

/-- A disk with what is in folders of the system. What cannot be read is left out. -/
partial def takePicture (disk : Disk) : List IO.FS.DirEntry → IO Disk
  | [] => return disk
  | entry :: rest => do
    let path := entry.path.toString.toList
    if ← entry.path.isDir then
      let inner ← try entry.path.readDir catch _ => pure #[]
      takePicture (disk.makeFolders path).2 (inner.toList ++ rest)
    else
      let content ← try some <$> IO.FS.readBinFile entry.path catch _ => pure none
      match content.map (disk.write path) with
      | some (.ok changed) => takePicture changed rest
      | _ => takePicture disk rest

/-- The files below the working folder. -/
def currentDisk : IO Disk := do
  let folder ← IO.currentDir
  let path := folder.toString.toList
  let disk := (Disk.empty.makeFolders path).2
  takePicture { disk with here := Path.names path } (← folder.readDir).toList

/-- When the last of the files in folders of the system was changed, in seconds since 1970. -/
partial def lastChange (latest : Nat) : List IO.FS.DirEntry → IO Nat
  | [] => return latest
  | entry :: rest => do
    if ← entry.path.isDir then
      let inner ← try entry.path.readDir catch _ => pure #[]
      lastChange latest (inner.toList ++ rest)
    else
      let time ← try (·.modified.sec.toNat) <$> entry.path.metadata catch _ => pure 0
      lastChange (max latest time) rest

/-- Writes what is new or different on the second disk. A folder comes before what is in it. -/
def writeChanges (before after : Disk) : IO Unit :=
  after.entries.forM fun (place, entry) => do
    if before.at? place ≠ some entry then
      let path := String.ofList ('/' :: Text.join ['/'] place)
      match entry with
      | .folder => IO.FS.createDirAll path
      | .file content => IO.FS.writeBinFile path content

/-- Prints lines. -/
def printLines (output : IO.FS.Stream) (ending : String) (lines : List Text) : IO Unit := do
  lines.forM fun line => output.putStr (String.ofList line ++ ending)
  output.flush

/-- Prints lines of the log. -/
def printLog (lines : List Site.LogLine) : IO Unit := do
  printLines (← IO.getStdout) "\n" (lines.map Site.LogLine.toText)

/-- The lines up to the next empty one. -/
partial def readLines (input : IO.FS.Stream) : IO (List Text) := do
  let line := (← input.getLine).toList.filter fun c => c ≠ '\n' ∧ c ≠ '\r'
  if line.isEmpty then return [] else return line :: (← readLines input)

/-- Answers requests until there are no more. Before each of them the server hears of the changes since the
one before. -/
partial def attend (service : Command.Result) (disk : Disk) : IO Unit := do
  match Server.Request.ofLines? (← readLines (← IO.getStdin)) with
  | none => return
  | some request =>
    let now ← currentDisk
    let answer (response : Server.Response) : IO Unit := do
      let output ← IO.getStdout
      printLines output "\r\n" response.headLines
      output.write response.body
      output.flush
    match service with
    | .development server =>
      let time ← IO.monoMsNow
      let notices := (Disk.reports disk now).map fun (kind, place) =>
        { kind, paths := ['/' :: Text.join ['/'] place], time : Server.Notice }
      let (server, log) := server.notice now notices
      printLog log
      answer (server.respond now request)
      attend (.development server) now
    | .preview folder =>
      let changed ← lastChange 0 (← (← IO.currentDir).readDir).toList
      answer (Server.preview now folder changed request)
      attend service now
    | _ => return

/-- Runs the program and says how it went. -/
def runProgram (arguments : List String) : IO UInt32 := do
  let disk ← currentDisk
  let began ← IO.monoMsNow
  let (outcome, world) := Command.run (arguments.map String.toList) disk { time := began }
  writeChanges disk world.disk
  let duration := (← IO.monoMsNow) - began
  let report := outcome.report world.log (Text.ofNat duration)
  printLog report.log
  printLines (← IO.getStdout) "\n" report.output
  printLines (← IO.getStderr) "\n" report.complaint
  match outcome with
  | .done result _ => attend result world.disk
  | _ => pure ()
  return report.exit.toUInt32

end DocSite

/-- The program. -/
def main (arguments : List String) : IO UInt32 := DocSite.runProgram arguments
