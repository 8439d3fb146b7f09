/-
# License notices

The text of the license file: the year and the owner set into one of two fixed texts.  Both are
entered as they stand, whatever the owner's name holds, be it a code point that is no character.
-/
import CrateSync.License.Mode

namespace CrateSync.License

/-! ## The permissive notice -/

/-- The start of the permissive notice, up to the year. -/
def permissiveStart : Text :=
  Text.joinWith ['\n']
    ["MIT License",
      "",
      "Copyright (c) "]

/-- The conditions of the permissive notice, behind the owner. -/
def permissiveTerms : Text :=
  Text.joinWith ['\n']
    ["",
      "",
      "Permission is hereby granted, free of charge, to any person obtaining a copy",
      "of this software and associated documentation files (the \"Software\"), to deal",
      "in the Software without restriction, including without limitation the rights",
      "to use, copy, modify, merge, publish, distribute, sublicense, and/or sell",
      "copies of the Software, and to permit persons to whom the Software is",
      "furnished to do so, subject to the following conditions:",
      "",
      "The above copyright notice and this permission notice shall be included in all",
      "copies or substantial portions of the Software.",
      "",
      "THE SOFTWARE IS PROVIDED \"AS IS\", WITHOUT WARRANTY OF ANY KIND, EXPRESS OR",
      "IMPLIED, INCLUDING BUT NOT LIMITED TO THE WARRANTIES OF MERCHANTABILITY,",
      "FITNESS FOR A PARTICULAR PURPOSE AND NONINFRINGEMENT. IN NO EVENT SHALL THE",
      "AUTHORS OR COPYRIGHT HOLDERS BE LIABLE FOR ANY CLAIM, DAMAGES OR OTHER",
      "LIABILITY, WHETHER IN AN ACTION OF CONTRACT, TORT OR OTHERWISE, ARISING FROM,",
      "OUT OF OR IN CONNECTION WITH THE SOFTWARE OR THE USE OR OTHER DEALINGS IN THE",
      "SOFTWARE.",
      ""]

/-- The permissive notice. -/
def permissiveNotice (owner : RawText) (year : Text) : RawText :=
  .ofText (permissiveStart ++ year ++ [' ']) ++ owner ++ .ofText permissiveTerms

/-! ## The proprietary notice -/

/-- The start of the proprietary notice, up to the year. -/
def proprietaryStart : Text :=
  "Copyright (c) "

/-- The reservations of the proprietary notice, behind the owner, up to the place that names whom
to ask. -/
def proprietaryTerms : Text :=
  Text.joinWith ['\n']
    [". All rights reserved.",
      "",
      "This software and its source code are proprietary and confidential.",
      "No part of it may be copied, modified, distributed, sublicensed or used,",
      "in whole or in part, without the prior written permission of "]

/-- The disclaimer of the proprietary notice, up to the place that names who is not liable. -/
def proprietaryDisclaimer : Text :=
  Text.joinWith ['\n']
    [".",
      "",
      "THE SOFTWARE IS PROVIDED \"AS IS\", WITHOUT WARRANTY OF ANY KIND, EXPRESS OR",
      "IMPLIED. IN NO EVENT SHALL "]

/-- The end of the proprietary notice. -/
def proprietaryEnd : Text :=
  Text.joinWith ['\n']
    [" BE LIABLE FOR ANY CLAIM, DAMAGES OR",
      "OTHER LIABILITY ARISING FROM THE USE OF THE SOFTWARE.",
      ""]

/-- The proprietary notice, which names the owner three times. -/
def proprietaryNotice (owner : RawText) (year : Text) : RawText :=
  .ofText (proprietaryStart ++ year ++ [' ']) ++ owner ++ .ofText proprietaryTerms ++ owner
    ++ .ofText proprietaryDisclaimer ++ owner ++ .ofText proprietaryEnd

/-! ## Both -/

/-- The notice for a license and a year. -/
def notice (license : License) (year : Int) : RawText :=
  match license.mode with
  | .permissive => permissiveNotice license.owner (Text.ofInt year)
  | .proprietary => proprietaryNotice license.owner (Text.ofInt year)

end CrateSync.License
