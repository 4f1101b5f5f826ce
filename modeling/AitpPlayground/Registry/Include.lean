import AitpPlayground.Lib.Ask
import AitpPlayground.Registry.Loader

/-!
# `AitpPlayground.Registry.Include`: YAML files that include others

`load_yaml` (`src/aitp_playground/registry/include_resolver.py`) has a constructor for the tag
`!include`. It opens the file that the tag names, relative to the file the tag is in, and loads
it in the same way. Nothing keeps track of the files that are open, so what ends a recursion without
end is the recursion limit of the interpreter.

`YamlDoc` is what PyYAML does with the text of one file: it ends with a value or an exception,
or it comes to the next `!include`, and goes on with the value of that file. What follows a tag
may depend on the value. On the way it needs frames of the stack, for the nodes that are nested
in each other. The recursion of `load_yaml` is that of `Lib.Ask`.
-/

set_option autoImplicit false

namespace AitpPlayground.Registry

open AitpPlayground.Lib

/-- The construction of a document, from its first node to its last one. -/
inductive YamlDoc (δ : Type) where
  | data (value : δ)
  /-- The text is no YAML, or a node cannot be constructed. -/
  | raises (exc : RunExc)
  /-- A call that takes so many frames and is over. -/
  | deepens (frames : Nat) (rest : YamlDoc δ)
  /-- A tag, with the frames of this document that are on the stack when its file is opened. -/
  | includes (frames : Nat) (rel : String) (rest : δ → YamlDoc δ)

/-- The files, by the names that they are opened under. -/
structure YamlTree (δ : Type) where
  files : Dict String (YamlDoc δ)
  /-- `Path.resolve`. -/
  resolve : String → String

/-- `Path(path).parent`. -/
def parentOf (path : String) : String :=
  match path.toList.reverse.dropWhile fun c => decide (c ≠ '/') with
  | [] => "."
  | [_] => "/"
  | _ :: rest => String.ofList rest.reverse

/-- `root / rel`: a path that starts with a slash stands for itself. -/
def joinPath (root rel : String) : String :=
  if rel.toList.head? = some '/' then rel else root ++ "/" ++ rel

/-- The exception of `open` for a file that is not there. -/
def fileNotFound (path : String) : RunExc :=
  .other "FileNotFoundError" ("[Errno 2] No such file or directory: '" ++ path ++ "'")

section
variable {δ : Type} (tree : YamlTree δ)

/-- The file that `_construct_include` opens. -/
def includeTarget (path rel : String) : String :=
  tree.resolve (joinPath (parentOf path) rel)

/-- `yaml.load` over a document. What an included file raises ends it. -/
def construct (path : String) : YamlDoc δ → Ask String (YamlFile δ)
  | .data value => .answer (.ok value)
  | .raises exc => .answer (.error exc)
  | .deepens frames rest => .spend frames (construct path rest)
  | .includes frames rel rest =>
    .ask frames (includeTarget tree path rel) fun
      | .ok value => construct path (rest value)
      | .error exc => .answer (.error exc)

/-- A file that is opened and loaded. -/
def loadFile (path : String) : Ask String (YamlFile δ) :=
  match tree.files.get? path with
  | some doc => construct tree path doc
  | none => .answer (.error (fileNotFound path))

/-- The exception of the interpreter when the stack is full. -/
def recursionError : RunExc := .other "RecursionError" "maximum recursion depth exceeded"

/-- `load_yaml`, in an interpreter that has so many frames left for it. Where they run out, the
exception ends all the files that are open. -/
def loadYaml (frames : Nat) (path : String) : YamlFile δ :=
  match Ask.evalWithin (loadFile tree) frames path with
  | some (_, outcome) => outcome
  | none => .error recursionError

end

end AitpPlayground.Registry
