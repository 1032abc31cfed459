import ChainLint.Command.Path
import ChainLint.Text.Utf8

namespace ChainLint

inductive FileError where
  | notFound
  | isDirectory
  | notDirectory
  | nameTooLong
  deriving DecidableEq, Repr

def FileError.message : FileError → String
  | .notFound => "No such file or directory"
  | .isDirectory => "Is a directory"
  | .notDirectory => "Not a directory"
  | .nameTooLong => "File name too long"

abbrev Place := List String

/-- Files with their bytes, which are numbers below 256. A directory exists if a file or another
directory is in it, if it is listed, or if paths start in it. There are no links and no permissions,
every file can be read, and no write fails. -/
structure FileTree where
  files : List (Place × List Nat) := []
  directories : List Place := []
  current : Place := []

namespace FileTree

def file? (t : FileTree) (place : Place) : Option (List Nat) := t.files.lookup place

def isDirectory (t : FileTree) (place : Place) : Bool :=
  place.isPrefixOf t.current || t.directories.any place.isPrefixOf ||
    t.files.any fun f => place.isPrefixOf f.1 && place ≠ f.1

def maxPath : Nat := 4095

def maxName : Nat := 255

def startOf (t : FileTree) (p : Path) : Place := if p.root = 0 then t.current else []

def enter (t : FileTree) (place : Place) (part : String) : Except FileError Place :=
  if !t.isDirectory place then .error .notDirectory
  else if part = ".." then .ok place.dropLast
  else if maxName < (Utf8.encode part.toList).length then .error .nameTooLong
  else
    let next := place ++ [part]
    if (t.file? next).isSome || t.isDirectory next then .ok next else .error .notFound

def locate (t : FileTree) (p : Path) : Except FileError (Place × List Nat) :=
  if maxPath < (Utf8.encode p.toString.toList).length then .error .nameTooLong
  else
    match p.parts.foldlM t.enter (t.startOf p) with
    | .error e => .error e
    | .ok place =>
        match t.file? place with
        | some bytes => .ok (place, bytes)
        | none => .error .isDirectory

def write (t : FileTree) (place : Place) (bytes : List Nat) : FileTree :=
  { t with files := t.files.map fun f => if f.1 = place then (place, bytes) else f }

theorem write_places (t : FileTree) (place : Place) (bytes : List Nat) :
    (t.write place bytes).files.map Prod.fst = t.files.map Prod.fst := by
  simp only [write, List.map_map]
  apply List.map_congr_left
  intro f _
  simp only [Function.comp]
  split <;> simp_all

def placesAlong (place : Place) : List String → List Place
  | [] => []
  | part :: parts =>
      let next := if part = ".." then place.dropLast else place ++ [part]
      next :: placesAlong next parts

end FileTree

end ChainLint
