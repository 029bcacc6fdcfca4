import Formwork.Console.Markup

/-!
# The console

What a run tells its user: messages, which go to the error console, and listings, which go to the
output when they were asked for.  The text of a message is escaped before it goes into markup.

Where no markup is understood, messages are texts, and the columns of a listing are as wide as their
widest cell.
-/

namespace Formwork.Console

inductive Message where
  | success (text : Text)
  | error (text : Text)
  | warning (text : Text)
  /-- How a value that is missing can be given. -/
  | hint (name : Text)
  deriving Repr, DecidableEq

def styled (style text : Text) : Text := '[' :: style ++ ']' :: text ++ '[' :: '/' :: style ++ [']']

def Message.markup : Message → Text
  | success text => styled "bold green" (Markup.escape text)
  | error text => styled "bold red" "Error:" ++ ' ' :: Markup.escape text
  | warning text => styled "bold yellow" "Warning:" ++ ' ' :: Markup.escape text
  | hint name => "  pass " ++ styled "bold" ("--set " ++ name ++ "=...")

structure Listing where
  title : Text := "Summary"
  columns : List Text
  rows : List (List Text)
  /-- Whether the listing is output rather than a message. -/
  toOutput : Bool := false
  deriving Repr, DecidableEq

/-- A list filled up with empty texts. -/
def fillUp (width : Nat) (cells : List Text) : List Text :=
  cells ++ List.replicate (width - cells.length) []

/-- The listing as a rectangle: a row that is too long adds columns without a header, and a row
that is too short is filled up.  Without any column there are no rows. -/
def Listing.rectangle (l : Listing) : Listing :=
  let width := (l.rows.map List.length).foldl max l.columns.length
  if width == 0 then { l with rows := [] }
  else { l with columns := fillUp width l.columns, rows := l.rows.map (fillUp width) }

inductive Entry where
  | message (m : Message)
  | listing (l : Listing)
  deriving Repr, DecidableEq

/-! ## Without styles -/

def Message.plain : Message → Text
  | success text => text
  | error text => "Error: " ++ text
  | warning text => "Warning: " ++ text
  | hint name => "  pass --set " ++ name ++ "=..."

def widths (rows : List (List Text)) : List Nat :=
  rows.foldl (fun ws row => List.zipWith max ws (row.map List.length)) <|
    (rows.headD []).map List.length

def row (ws : List Nat) (cells : List Text) : Text :=
  List.intercalate [' ', ' '] <|
    List.zipWith (fun w cell => cell ++ List.replicate (w - cell.length) ' ') ws cells

/-- A listing as lines: its title, its columns and its rows. -/
def Listing.plain (l : Listing) : Text :=
  let r := l.rectangle
  let rows := r.columns :: r.rows
  Text.unlines (r.title :: rows.map (row (widths rows)))

/-- An entry without its markup, and whether it is output. -/
def Entry.plain : Entry → Text × Bool
  | message m => (m.plain, false)
  | listing l => (l.plain, l.toOutput)

end Formwork.Console
