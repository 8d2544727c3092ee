import ApiSurface.Text.Basic

/-!
Lines end at a line feed, which belongs to the line it ends.  A carriage return counts only
directly before a line feed.
-/

namespace ApiSurface

namespace Text

/-- Every carriage return that stands directly before a line feed is dropped. -/
def unifyLineEnds : Text → Text
  | [] => []
  | '\r' :: '\n' :: rest => '\n' :: unifyLineEnds rest
  | c :: rest => c :: unifyLineEnds rest

/-- The lines of a text, each with its line feed.  Only the last may lack one, and none is
empty. -/
def lines : Text → List Text
  | [] => []
  | c :: rest =>
      if c = '\n' then [c] :: lines rest
      else
        match lines rest with
        | [] => [[c]]
        | line :: others => (c :: line) :: others

/-- A line without its line feed and without the carriage return in front of that. -/
def lineBody (line : Text) : Text :=
  match line.dropEnding? ['\n'] with
  | none => line
  | some body => (body.dropEnding? ['\r']).getD body

/-- The first line without its end.  The empty text has no line. -/
def firstLine? (text : Text) : Option Text :=
  text.lines.head?.map lineBody

end Text

end ApiSurface
