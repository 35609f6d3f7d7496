import BrokerSession.Program

/-!
# The command line

A run of the program sees the files and the variables that it may look at as values, and what it writes is a
value too. Here they are gathered, and written out.
-/

namespace BrokerSession.Main

open BrokerSession

/-- Adds a file, or a directory with the files in it, as far as it can be read. -/
def gather (fs : Files) (path : String) : IO Files := do
  try
    let place ← IO.FS.realPath path
    if ← place.isDir then
      let mut found := fs.addDirectory path
      for entry in ← place.readDir do
        unless ← entry.path.isDir do
          found := found.addFile (path ++ "/" ++ entry.fileName) (← IO.FS.readBinFile entry.path)
      return found
    return fs.addFile path (← IO.FS.readBinFile place)
  catch _ => return fs

/-- The values of variables that are set. -/
def lookUp (names : List String) : IO Environment := do
  let values ← names.mapM fun name => return (name, ← IO.getEnv name)
  return values.filterMap fun (name, value) => value.map (name, ·)

/-- Digits that no other run has. -/
def freshDigits : IO String := do return Hex.encode (← IO.getRandomBytes 16)

/-- What a run with some arguments may look at. -/
def surroundings (args : List String) : IO Surroundings := do
  let env ← lookUp Program.knownVariables
  let digits ← freshDigits
  match CommandLine.parse env args with
  | .error _ => return ⟨.empty, env, .unreachable, digits⟩
  | .ok i =>
    let fs ← (Program.configFile? i).toList.foldlM gather .empty
    match Program.written? fs i with
    | none => return ⟨fs, env, .unreachable, digits⟩
    | some c =>
      let fs ← (Program.namedPaths c).foldlM gather fs
      return ⟨fs, env ++ (← lookUp (Program.namedVariables c)), .unreachable, digits⟩

end BrokerSession.Main

/-- Runs the program with arguments, writes what it says, and ends with its code. -/
def main (args : List String) : IO UInt32 := do
  let t := BrokerSession.Program.run (← BrokerSession.Main.surroundings args) args
  for line in t.lines do
    IO.println line
  return UInt32.ofNat t.exit
