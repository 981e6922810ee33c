import MockScaffold.Json.Document
import MockScaffold.Metadata.Decoder

/-!
A metadata document is loaded as far as it is sound. A function that does not
decode is left out of its class, a class that does not decode without its
functions is left out of the file, and each is named with the reason in a list of
what was skipped. Only a document that is no object, or whose classes are no
list, does not load at all.
-/

namespace MockScaffold

/-- An entry that was left out, and why. -/
structure SkippedEntry where
  entry : String
  reason : DecodeError

def SkippedEntry.toJson (s : SkippedEntry) : Json :=
  .object [("entry", .string s.entry), ("reason", .string s.reason.message)]

/-- What was loaded of a document, and what was left out, in the order of the document. -/
structure LoadedFile where
  file : SourceFile
  skipped : List SkippedEntry

/-- A reason for which nothing of a document loads. -/
inductive LoadError where
  | malformed (fault : Json.SyntaxError)
  | notAnObject
  | classesNotAList

/-- The wording of a reason, without the place of a fault of the text. -/
def LoadError.reason : LoadError → String
  | .malformed fault => fault.message
  | .notAnObject => "metadata must be a JSON object"
  | .classesNotAList => "`classes` must be an array"

/-- What is said of a document that does not load. -/
def LoadError.message (e : LoadError) : String := "Serialization error: " ++ e.reason

namespace Loading

/-- What entries yield, each on its own, with all that was left out on the way, in order. -/
def gather {α : Type} (load : Json → Option α × List SkippedEntry) (entries : List Json) :
    List α × List SkippedEntry :=
  let loaded := entries.map load
  (loaded.filterMap (·.1), loaded.flatMap (·.2))

/-- The text of a member, or what stands for it. -/
def label (entry : Json) (key unnamed : String) : String :=
  ((entry.member? key).bind Json.asString?).getD unnamed

/-- A function, or its absence under a name that starts with `owner`. -/
def loadFunction (owner : String) (entry : Json) : Option FunctionDecl × List SkippedEntry :=
  match Decoding.ofJson FunctionDecl.shape.decode entry with
  | .ok function => (some function, [])
  | .error reason => (none, [⟨owner ++ label entry "name" "<unnamed function>", reason⟩])

/-- An object without its list of functions, and that list; anything else stays as it is. -/
def takeFunctions (entry : Json) : Json × List Json :=
  match entry with
  | .object members =>
    match Keyed.lookup? "functions" members with
    | some (.array functions) => (.object (Keyed.erase "functions" members), functions)
    | _ => (entry, [])
  | _ => (entry, [])

/-- A class with those of its functions that decode. -/
def loadClass (entry : Json) : Option ClassDecl × List SkippedEntry :=
  let name := label entry "class_name" "<unnamed class>"
  let (rest, entries) := takeFunctions entry
  let (functions, skipped) := gather (loadFunction (name ++ ".")) entries
  match Decoding.ofJson ClassDecl.shape.decode rest with
  | .ok decl => (some { decl with functions }, skipped)
  | .error reason => (none, skipped ++ [⟨name, reason⟩])

/-- The top-level functions that decode. -/
def loadTopLevel (entry : Json) : Option TopLevelDecls × List SkippedEntry :=
  let (rest, entries) := takeFunctions entry
  let (functions, skipped) := gather (loadFunction "") entries
  match Decoding.ofJson TopLevelDecls.shape.decode rest with
  | .ok decls => (some { decls with functions }, skipped)
  | .error reason => (none, skipped ++ [⟨"<top-level functions>", reason⟩])

/-- The entries for classes of a document; without any member there are none. -/
def classEntries (members : List (String × Json)) : Except LoadError (List Json) :=
  match Keyed.lookup? "classes" members with
  | none | some .null => .ok []
  | some (.array entries) => .ok entries
  | some _ => .error .classesNotAList

/-- The top-level functions of a document, if it has any. -/
def topLevelEntry (members : List (String × Json)) : Option Json :=
  match Keyed.lookup? "static_functions" members with
  | none | some .null => none
  | some entry => some entry

end Loading

open Loading in
/-- Loads what decodes of a value. -/
def SourceFile.load (document : Json) : Except LoadError LoadedFile :=
  match document with
  | .object members => do
    let entries ← classEntries members
    let (classes, skippedClasses) := gather loadClass entries
    let (topLevel, skippedTopLevel) :=
      match topLevelEntry members with
      | none => (none, [])
      | some entry => loadTopLevel entry
    return ⟨⟨classes, topLevel⟩, skippedClasses ++ skippedTopLevel⟩
  | _ => .error .notAnObject

/-- Loads what decodes of a text. -/
def SourceFile.loadText (text : String) : Except LoadError LoadedFile :=
  match Json.parse text with
  | .ok document => load document
  | .error fault => .error (.malformed fault)

end MockScaffold
