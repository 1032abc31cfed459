import ChainLint.Command.Run

namespace ChainLint.Command

def diskName (place : Place) : String := "/" ++ "/".intercalate place

def load (tree : FileTree) (place : Place) : IO FileTree := do
  if (tree.file? place).isSome || tree.isDirectory place then
    return tree
  try
    let bytes ← IO.FS.readBinFile (diskName place)
    return { tree with files := tree.files ++ [(place, bytes.toList.map UInt8.toNat)] }
  catch
    | .noFileOrDirectory .. => return tree
    | .inappropriateType .. =>
        if tree.files.any fun f => f.1.isPrefixOf place then return tree
        else return { tree with directories := tree.directories ++ [place] }
    | e => throw e

def save (before after : FileTree) : IO Unit :=
  after.files.forM fun (place, bytes) => do
    if before.file? place != some bytes then
      IO.FS.writeBinFile (diskName place) ⟨(bytes.map UInt8.ofNat).toArray⟩

end ChainLint.Command

open ChainLint Command in
def main (args : List String) : IO UInt32 := do
  let current := (Path.ofString (← IO.currentDir).toString).parts
  let named := match Options.ofArgs args with
    | .ok o => o.sources.map Path.ofString
    | .error _ => []
  let start : FileTree := { current := current }
  let places := named.flatMap fun p => FileTree.placesAlong (start.startOf p) p.parts
  let tree ← places.foldlM load start
  let r := run tree args
  save tree r.files
  IO.print r.stdout
  IO.eprint r.stderr
  match r.outcome with
  | .exit code => return code.toUInt32
  | .fault _ => return 1
