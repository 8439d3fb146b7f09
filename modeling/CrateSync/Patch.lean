/-
# Patches that apply once

Two ways to bring a text into a file that may already hold it: a line at the front, and a block at
the end.  Neither changes a text that holds what would be added, so a patch never applies twice.
-/
import CrateSync.Text.Lines

namespace CrateSync.Patch

/-- The text with a line in front, set off by an empty line; nothing if the text holds the line. -/
def prependOnce (existing line : Text) : Option Text :=
  if Text.includes line existing then none
  else
    let newline := Text.lineBreakOf existing
    some (line ++ newline ++ newline ++ existing)

/-- The line break that has to come between a text and what is added behind it. -/
def separator (existing : Text) : Text :=
  if existing.isEmpty || Text.endsLine existing then [] else Text.lineBreakOf existing

/-- The text with a block behind it, on a line of its own; nothing if the text holds the block or
the block is empty. -/
def appendOnce (existing block : Text) : Option Text :=
  if block.isEmpty || Text.includes block existing then none
  else some (existing ++ separator existing ++ block)

end CrateSync.Patch
