import FlowCluster.CommandLine.Scope
import FlowCluster.Settings.Basic
import FlowCluster.Text.Basic
import FlowCluster.Text.Terminal

/-! # Help

The help of a scope: what it is for, its usage, and a table of its commands and of its arguments. The texts of
arguments stand beside them, or below them if they would not fit on a page of a hundred columns. A text that does not
fit is not broken. -/

namespace FlowCluster.CommandLine

def pageWidth : Nat := 100

def spaces (n : Nat) : String := String.ofList (List.replicate n ' ')

namespace Argument

/-- The letter of an argument, if it has one, and its name. -/
def names (a : Argument) : String :=
  match a.short? with
  | some c => String.ofList ['-', c] ++ ", " ++ a.shown
  | none => a.shown

/-- What stands before the names of an argument in a table, so that all names without the letters are in one column. -/
def margin (a : Argument) : String := spaces (if a.short?.isSome then 2 else 6)

/-- A value as help shows it: between quotes if it would not be seen to be one word. -/
def shownValue (v : String) : String :=
  if v.isEmpty ∨ v.toList.any Text.Blank.isBlank then Text.Quoted.quote v else v

/-- The text of an argument, with where its value comes from if it is not given. -/
def description (e : Environment) (a : Argument) : String :=
  a.about ++
    (match a.fallback with
      | some f =>
        let held := if f.shown then "=" ++ Text.Utf8.lossy ((e.bytes? f.source).getD []) else ""
        " [env: " ++ f.source ++ held ++ "]"
      | none => "") ++
    (match a.implied with
      | some v => " [default: " ++ shownValue v ++ "]"
      | none => "")

end Argument

namespace Scope

/-- The width of the widest name of an argument. -/
def nameWidth (s : Scope) : Nat := (s.arguments.map fun a => a.shown.length).foldl max 0

/-- Whether texts stand below the arguments: the names take more than two fifths of the page, and some text is
longer than what is left. -/
def isStacked (e : Environment) (s : Scope) : Bool :=
  let taken := s.nameWidth + 12
  5 * taken > 2 * pageWidth &&
    s.arguments.any fun a => (a.description e).length > pageWidth - taken

/-- A text from a column on, to which each of its lines comes back. -/
def placed (column : Nat) (text : String) : String :=
  String.intercalate ("\n" ++ spaces column) ((Text.parts (· == '\n') text.toList).map String.ofList)

def argumentRow (e : Environment) (s : Scope) (a : Argument) : List Text.Terminal.Span :=
  let about :=
    if s.isStacked e then "\n" ++ spaces 10 ++ placed 10 (a.description e)
    else spaces (s.nameWidth + 2 - a.shown.length) ++ placed (s.nameWidth + 8) (a.description e)
  [.plain a.margin, .marked a.names, .plain about]

/-- Rows under a title, or nothing if there are none. -/
def table (title : String) (rows : List (List Text.Terminal.Span)) : List Text.Terminal.Span :=
  if rows.isEmpty then []
  else .plain "\n\n" :: .marked (title ++ ":") :: .plain "\n" :: [.plain "\n"].intercalate rows

/-- A name and its text, with the texts of all names in one column. -/
def namedRows (xs : List (String × String)) : List (List Text.Terminal.Span) :=
  let width := (xs.map fun x => x.1.length).foldl max 0
  xs.map fun (n, about) => [.plain "  ", .marked n, .plain (spaces (width + 2 - n.length) ++ about)]

/-- The help of a scope, as it is written for a screen. -/
def helpSpans (e : Environment) (s : Scope) : List Text.Terminal.Span :=
  [.plain (s.about ++ "\n\n"), .marked "Usage:", .plain (" " ++ s.usage .general)] ++
    table "Commands" (namedRows s.listed) ++ table "Arguments" (namedRows s.operand.toList) ++
    table "Options" (s.arguments.map (s.argumentRow e)) ++ [.plain "\n"]

def helpText (e : Environment) (s : Scope) : String := Text.Terminal.shown (s.helpSpans e)

end Scope
end FlowCluster.CommandLine
