import AppLauncher.Hosting.SystemLibrary
import AppLauncher.Shell.Programs

/-!
# Starting programs

A host can start a program with some arguments and wait for its end.  The
program works on the host's files, takes the standard input and writes to the
two standard outputs.
-/

namespace AppLauncher

structure Spawned where
  ending : Ending
  host : Host
  input : Bytes
  output : Bytes
  error : Bytes

namespace Host

def callDepth : Nat := 2000

def argumentLimit : Nat := 131072

def startBindings (host : Host) : List (Shell.Text × Shell.Text) :=
  let path := Bytes.joinWith (UInt8.ofNat ':'.toNat) host.searchPath
  [("PATH".toList, Shell.Text.ofBytes path), ("HOME".toList, "/root".toList)]

def startRoom : Nat := 2097152

/-- Whether all that a program is started with finds room.  A string takes its bytes
and a closing one, and all but the program's name take a pointer, too; what is
handed over is the program's name once more, before its arguments. -/
def hasRoom (host : Host) (program : Path) (arguments : List Bytes) : Bool :=
  let bindings := host.startBindings.map fun (name, value) => name.length + value.length + 1
  let sizes := bindings ++ (program :: arguments).map (·.length)
  arguments.all (·.length < argumentLimit)
    && sizes.foldl (fun total size => total + size + 9) (program.length + 1) ≤ startRoom

def startMachine (host : Host) (input : Bytes) : Shell.Machine :=
  let bindings := host.startBindings
  { host
    sources := [⟨input, true⟩]
    memory := { bindings, exported := bindings.map (·.1) } }

def runNamed (program : Path) (arguments : List Bytes) (searchPath : List Path) :
    Shell.Run (Except FileError Ending) :=
  let operands := arguments.map Shell.Text.ofBytes
  Shell.Engine.runNamed (fun path => (Shell.Engine.ofDepth callDepth).execute path operands)
    (Shell.Text.ofBytes program) searchPath

def execute (host : Host) (input : Bytes) (program : Path) (arguments : List Bytes) :
    Except FileError Spawned :=
  if !host.hasRoom program arguments then
    .error (.os .argumentListTooLong)
  else
    let (result, machine) :=
      (runNamed program arguments host.searchPath).run (host.startMachine input)
    let left (ending : Ending) : Spawned :=
      { ending
        host := { machine.host with current := host.current }
        input := (machine.sources.head?.map (·.content)).getD []
        output := machine.buffers.getD 0 []
        error := machine.buffers.getD 1 [] }
    match result with
    | .ok (.ok ending) => .ok (left ending)
    | .ok (.error error) => .error error
    | .error (.ended ending) => .ok (left ending)
    | .error _ => .ok (left (.exited 0))

def tools : List (String × Tool) :=
  [("sh", .shell), ("dash", .shell), ("bash", .shell), ("env", .environment),
   ("nohup", .withoutHangup), ("setsid", .withoutHangup), ("nice", .urgency),
   ("timeout", .timeLimit), ("xargs", .forInput), ("find", .find),
   ("echo", .echo), ("printf", .printf), ("test", .test), ("[", .test), ("cat", .concatenate),
   ("tee", .copyThrough), ("tac", .reverseLines), ("rev", .reverseLetters),
   ("nl", .numberLines), ("head", .head), ("tail", .tail), ("wc", .wordCount),
   ("uniq", .distinctLines), ("cut", .cutLines), ("paste", .pasteLines), ("fold", .foldLines),
   ("seq", .sequence), ("yes", .endless), ("sort", .sortLines), ("tr", .replaceLetters),
   ("grep", .search), ("egrep", .searchExtended), ("fgrep", .searchPlain),
   ("sed", .editLines), ("expr", .calculate), ("od", .dump),
   ("basename", .baseName), ("dirname", .directoryName), ("readlink", .linkTarget),
   ("realpath", .fullPath), ("touch", .touch), ("mkdir", .makeDirectory),
   ("rmdir", .removeDirectory), ("rm", .remove), ("cp", .copy), ("mv", .move), ("ln", .link),
   ("chmod", .changeMode), ("ls", .list), ("cmp", .compare), ("diff", .difference),
   ("mktemp", .makeTemporary), ("pwd", .printDirectory), ("printenv", .printEnvironment),
   ("which", .locate), ("id", .identity), ("whoami", .userName), ("uname", .systemName),
   ("sleep", .pause), ("chown", .succeed), ("chgrp", .succeed), ("sync", .succeed),
   ("true", .succeed), ("false", .fail)]

def systemRoot : Node :=
  let text := Bytes.ofText
  let programs := tools.map fun (name, tool) => (text name, Node.file (.program tool) true)
  let libraries := SystemLibrary.names.map fun name => (text name, SystemLibrary.file)
  let accounts :=
    [("group", "root:x:0:\n"), ("hostname", "host\n"), ("hosts", "127.0.0.1 localhost\n"),
     ("passwd", "root:x:0:0:root:/root:/bin/bash\n")].map fun (name, content) =>
      (text name, Node.plain (text content))
  let empty := ["home", "opt", "proc", "root", "run", "srv", "sys", "tmp", "var"]
  .directory
    ([(text "usr", .directory
        [(text "bin", .directory programs),
         (text "lib", .directory [(text "x86_64-linux-gnu", .directory libraries)])]),
      (text "bin", .link (text "usr/bin")),
      (text "lib", .link (text "usr/lib")),
      (text "etc", .directory accounts),
      (text "dev", .directory [(text "null", .file .void false)])]
      ++ empty.map fun name => (text name, .emptyDirectory))

def systemPath : List Path :=
  [Bytes.ofText "/usr/bin", Bytes.ofText "/bin"]

end Host

end AppLauncher
