import Converge.CommandLine.FilePath
import Converge.Text.Decoding
import Converge.Tree.Fields

/-!
# What a command finds

The files and the standard input that a command can read, as values. A directory of named files is
one such world; commands change at most one of its files, by adding texts to its end.
-/

namespace Converge.CommandLine

/-- What a command finds around it. -/
structure World where
  /-- The text of the file at a path, if it can be read as text. -/
  text? : String → Option String
  /-- Whether anything is at a path. -/
  holds : String → Bool
  /-- Whether text can be added to a file at a path. -/
  appendable : String → Bool
  /-- The standard input, if it is text. -/
  input : Option String
  /-- The home directory. -/
  home : Option String
  /-- Where settings are when no file of settings is named. -/
  settings : Option String

/-- Where settings are when no file of settings is named: below the directory for configuration,
which is one of the home directory unless an absolute path names another. -/
def World.settingsPath? (home configHome : Option String) : Option String :=
  match configHome.filter fun dir => Text.startsWith ['/'] dir.toList with
  | some dir => some (dir ++ "/netrm/config.toml")
  | none => home.map fun dir => dir ++ "/.config/netrm/config.toml"

/-- What a file holds. Text that is added to the end of a file never mends what is no text in it,
and so a file is known by what it shows and by whether it is a text. -/
structure Content where
  /-- The text, with a replacement character for each piece that is none. -/
  shown : String
  /-- Whether all of it is text. -/
  isText : Bool

namespace Content

/-- What a file of a text holds. -/
def ofText (s : String) : Content := ⟨s, true⟩

/-- What a file of some bytes holds. -/
def ofBytes (bytes : List UInt8) : Content :=
  let cs := Text.decode bytes
  ⟨String.ofList (cs.map fun c => c.getD '\ufffd'), cs.all Option.isSome⟩

/-- The text, if all of the content is one. -/
def text? (c : Content) : Option String := if c.isText then some c.shown else none

/-- The content with text behind it. -/
def append (c : Content) (text : String) : Content := { c with shown := c.shown ++ text }

end Content

/-- A directory that commands run in, and its files by their paths. -/
structure Directory where
  name : String
  files : Fields Content

namespace Directory

/-- The segments of a path. -/
def segments (path : String) : List String := (Text.splitOn '/' path.toList).map String.ofList

/-- Whether the segments, last first, lead to a directory. -/
def isDirectory (d : Directory) (here : List String) : Bool :=
  here.isEmpty || d.files.any fun (path, _) =>
    let whole := segments path
    here.length < whole.length && whole.take here.length = here.reverse

/-- Follows segments from a place, all places being segments with the last first. -/
def follow (d : Directory) : (here : List String) → List String → Option (List String)
  | here, [] => some here
  | here, s :: rest =>
    if !d.isDirectory here then none
    else if s = "" || s = "." then follow d here rest
    else if s = ".." then
      match here with
      | [] => none
      | _ :: above => follow d above rest
    else follow d (s :: here) rest

/-- The place that a path leads to; paths out of the directory lead nowhere. -/
def resolve (d : Directory) (path : String) : Option (List String) :=
  match Text.after? (d.name ++ "/").toList path.toList with
  | some inside => d.follow [] (segments (String.ofList inside))
  | none =>
    if path = d.name then some []
    else if Text.startsWith ['/'] path.toList then none
    else d.follow [] (segments path)

/-- The path of a place. -/
def pathOf (here : List String) : String := "/".intercalate here.reverse

/-- The path under which the file at a path is kept. -/
def key? (d : Directory) (path : String) : Option String :=
  (d.resolve path).bind fun here => if d.isDirectory here then none else some (pathOf here)

/-- The world that a directory is, with it as the home directory. -/
def world (d : Directory) (input settings : Option String) : World where
  text? path := ((d.key? path).bind fun key => Fields.get? key d.files).bind Content.text?
  holds path :=
    match d.resolve path with
    | none => false
    | some here => d.isDirectory here || (Fields.get? (pathOf here) d.files).isSome
  appendable path := (d.key? path).isSome
  input := input
  home := some d.name
  settings := settings

/-- The directory with text added to the end of a file, which is made if there is none. -/
def append (d : Directory) (path text : String) : Directory :=
  match d.key? path with
  | none => d
  | some key =>
    let old := (Fields.get? key d.files).getD (.ofText "")
    { d with files := Fields.put key (old.append text) d.files }

/-- The directory with texts added to the ends of files, one after the other. -/
def appendAll (d : Directory) : List (String × String) → Directory
  | [] => d
  | (path, text) :: rest => (d.append path text).appendAll rest

end Directory

end Converge.CommandLine
