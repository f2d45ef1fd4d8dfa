import GLBindings.Run

namespace GLBindings

def FileFault.ofSystem : IO.Error → FileFault
  | .noFileOrDirectory .. => .missing
  | .alreadyExists .. => .exists
  | .inappropriateType _ 20 _ => .notDirectory
  | .inappropriateType .. => .isDirectory
  | e => .other (toString e)

def attempt {α : Type} (act : IO α) : IO (Except FileFault α) := do
  match ← act.toBaseIO with
  | .ok a => return .ok a
  | .error e => return .error (.ofSystem e)

def createFile (path : String) (bytes : ByteArray) : IO Unit := do
  if let some p := FilePath.ofString? path then
    unless p.parent.isEmpty do
      IO.FS.createDirAll ((if p.isRooted then "/" else "") ++ "/".intercalate p.parent)
  IO.FS.writeBinFile path bytes

def writeStandardOutput (bytes : ByteArray) : IO Unit := do
  let out ← IO.getStdout
  out.write bytes
  out.flush

def deliver (act : ByteArray → IO Unit) (write : Sink → Written) : IO (Except OutputFault Unit) := do
  let (result, sink) := write {}
  match ← attempt (act ⟨sink.taken.toArray⟩) with
  | .ok () => return result
  | .error e => return .error (.io e.message)

instance : Host IO where
  readFile path := attempt (do return (← IO.FS.readBinFile path).toList)
  writeFile path := deliver (createFile path)
  writeOutput := deliver writeStandardOutput

end GLBindings

def main (args : List String) : IO UInt32 := do
  let outcome ← GLBindings.Run.perform args
  IO.eprint outcome.report
  return outcome.exitCode
