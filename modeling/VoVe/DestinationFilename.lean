import VoVe.Checks
import VoVe.PosixPath

set_option autoImplicit false

namespace VoVe.DestinationFilename
open ByteCodec AsciiText PosixPath Checks

def kTrashFilenamePrefix : Bytes := utf8 ".vove-trash-564f5645-"
def kTrashVaultDirectoryName : Bytes := utf8 ".vove-trash-564f5645-vault"
def kTransferSourceFilenamePrefix : Bytes := utf8 ".vove-transfer-564f5645-source-"
def kTransferDestinationFilenamePrefix : Bytes := utf8 ".vove-transfer-564f5645-destination-"
def kTransferOverwriteBackupFilenamePrefix : Bytes:=
 utf8 ".vove-transfer-564f5645-overwrite-backup-"
def kTransferOwnershipMarkerFilename : Bytes := utf8 ".vove-owner-564f5645"

variable (filename : Bytes)

def isTrashFilename : Bool:=
 startsWith filename kTrashVaultDirectoryName ∨ startsWith filename kTrashFilenamePrefix

def isTransferFilename : Bool:=
 startsWith filename kTransferSourceFilenamePrefix ∨
  startsWith filename kTransferDestinationFilenamePrefix ∨
  startsWith filename kTransferOverwriteBackupFilenamePrefix ∨
  filename = kTransferOwnershipMarkerFilename

def isInternalFilename : Bool := isTrashFilename filename ∨ isTransferFilename filename

def reservedStems : List Bytes:=
 [utf8 "CON",utf8 "PRN",utf8 "AUX",utf8 "NUL",utf8 "CONIN$",utf8 "CONOUT$",utf8 "CLOCK$"]

def superscriptDigits : List Bytes := [[0xc2,0xb9],[0xc2,0xb2],[0xc2,0xb3]]

def reservedWindowsStem (name : Bytes) : Bool:=
 let stem:=(name.takeWhile (·≠dot)).map asciiUpper
 let port:=startsWith stem (utf8 "COM") ∨ startsWith stem (utf8 "LPT")
 stem ∈ reservedStems ∨ (stem.length = 4 ∧ port ∧ ∃ digit ∈ stem.drop 3,49 ≤ digit ∧ digit ≤ 57) ∨
  (stem.length = 5 ∧ port ∧ stem.drop 3 ∈ superscriptDigits)

def forbiddenCharacters : Bytes := utf8 "<>:\"/\\|?*"

variable (path : Path)

def validPortableFilename : Except Bytes Unit := do
 let filename:=path.filename.native
 require (filename≠[] ∧ filename≠[dot] ∧ filename≠dotDot)
  (utf8 "destination filename is empty or reserved")
 require (filename.getLast?≠some dot ∧ filename.getLast?≠some 32)
  (utf8 "destination filename cannot end with a dot or space")
 require (filename.all fun value=>value ≥ 0x20 ∧ value ∉ forbiddenCharacters)
  (utf8 "destination filename contains a forbidden character")
 require (!reservedWindowsStem filename) (utf8 "destination filename is reserved by Windows")

def portableMaximumComponentUnits : ℕ := 255

def validDestinationFilename : Except Bytes Unit := do
 require (!path.isEmpty && path.same path.filename)
  (utf8 "destination filename must not contain a path")
 require (validUtf8 path.native) (utf8 "destination filename must contain valid UTF-8")
 require (path.native.length ≤ portableMaximumComponentUnits)
  (utf8 "destination filename is too long")
 validPortableFilename path

/-- The names the filename check accepts; the refusals carry a text. -/
def DestinationName : Prop := validDestinationFilename path = .ok ()

lemma DestinationName.ne_empty {path : Path} (h:DestinationName path) : path.native≠[]:=by
 intro hempty
 simp [DestinationName,validDestinationFilename,Path.isEmpty,hempty] at h

lemma DestinationName.filename_eq {path : Path} (h:DestinationName path):
 path.filename=path:=by
 simp only [DestinationName,validDestinationFilename,bind_unit_eq_ok,require_eq_ok,
  Bool.and_eq_true] at h
 exact filename_of_same h.1.2

lemma DestinationName.no_slash {path : Path} (h:DestinationName path) : slash∉path.native:=by
 rw [←h.filename_eq]
 exact filename_no_slash path

lemma DestinationName.no_dots {path : Path} (h:DestinationName path):
 path.native≠[dot] ∧ path.native≠dotDot:=by
 have hfilename:=h.filename_eq
 simp only [DestinationName,validDestinationFilename,validPortableFilename,bind_unit_eq_ok,
  require_eq_ok,decide_eq_true_eq,hfilename] at h
 exact h.2.2.2.1.2

lemma DestinationName.validUtf8 {path : Path} (h:DestinationName path):
 validUtf8 path.native=true:=by
 simp only [DestinationName,validDestinationFilename,bind_unit_eq_ok,require_eq_ok,
  decide_eq_true_eq] at h
 exact h.2.1

end VoVe.DestinationFilename
