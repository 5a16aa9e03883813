import EventScript.Config.Toml
import EventScript.Files
import EventScript.Script
import EventScript.Text.Blank

/-!
# Loading scripts and configurations

A script file holds the bytes of the script, or hexadecimal text. In the text white space may stand
anywhere, also inside a digit pair, and one mark `0x` or `0X` may stand in front.

The digits are left to a decoder from a library, and the loader works with any. The program is built
with `HexDecoder.standard`.
-/

namespace EventScript

/-! ## Hexadecimal text -/

/-- Why a text is no hexadecimal byte string. -/
inductive HexError where
  /-- The digits do not pair up. -/
  | oddLength
  /-- A byte of the text is no digit. -/
  | badDigit (byte : UInt8) (index : Nat)
  deriving DecidableEq

/-- The wording of a failure. A byte is shown as the character of its number. -/
def HexError.message : HexError → String
  | oddLength => "Odd number of digits"
  | badDigit byte index =>
    "Invalid character " ++ Text.quotedChar (Char.ofNat byte.toNat) ++ s!" at position {index}"

/-- A decoder of hexadecimal text. -/
structure HexDecoder where
  /-- The bytes that a text of digits stands for. -/
  decode : List UInt8 → Except HexError (List UInt8)

/-- The value of a byte that is a digit. -/
def hexByte (index : Nat) (byte : UInt8) : Except HexError Nat :=
  match Text.hexValue? (Char.ofNat byte.toNat) with
  | some value => .ok value
  | none => .error (.badDigit byte index)

/-- The bytes of digit pairs, the first of which has the given index. -/
def hexPairs (index : Nat) : List UInt8 → Except HexError (List UInt8)
  | high :: low :: rest => do
    let h ← hexByte index high
    let l ← hexByte (index + 1) low
    let bytes ← hexPairs (index + 2) rest
    return UInt8.ofNat (h * 16 + l) :: bytes
  | _ => .ok []

/-- The bytes of a text that is all digits. An odd number of bytes is refused first of all. -/
def decodeHex (text : List UInt8) : Except HexError (List UInt8) :=
  if text.length % 2 = 1 then .error .oddLength else hexPairs 0 text

/-- The decoder of the program. -/
def HexDecoder.standard : HexDecoder := ⟨decodeHex⟩

/-- The text without white space and without the mark in front. -/
def hexBody (text : String) : List Char :=
  match text.toList.filter fun c ↦ !Text.isBlank c with
  | '0' :: 'x' :: rest => rest
  | '0' :: 'X' :: rest => rest
  | digits => digits

/-! ## Loading -/

/-- The libraries that loading relies on. -/
structure Libraries where
  /-- The decoder of hexadecimal text. -/
  hex : HexDecoder
  /-- The format of configurations. -/
  configs : ConfigFormat

/-- The libraries of the program. -/
def Libraries.standard : Libraries := ⟨.standard, .standard⟩

/-- Why a file could not be loaded. -/
inductive LoadError where
  /-- The script file cannot be read. -/
  | unreadable (path : String) (reason : FileError)
  /-- The script file is no text. -/
  | notText (path : String) (reason : Text.Utf8.Malformed)
  /-- The script file is no hexadecimal text. -/
  | notHex (path : String) (reason : HexError)
  deriving DecidableEq

namespace LoadError

/-- What failed. -/
def summary : LoadError → String
  | unreadable path _ => "failed to read script " ++ path
  | notText path _ => "script " ++ path ++ " is not valid UTF-8 text"
  | notHex path _ => "script " ++ path ++ " is not valid hex"

/-- Why it failed. -/
def cause : LoadError → String
  | unreadable _ reason => reason.message
  | notText _ reason => reason.message
  | notHex _ reason => reason.message

/-- What failed and why. -/
def message (e : LoadError) : String := e.summary ++ ": " ++ e.cause

end LoadError

/-- The bytes of a script file. -/
def Files.loadScript (files : Files) (path : String) (hexText : Bool)
    (hex : HexDecoder := .standard) : Except LoadError (List UInt8) := do
  let bytes ← (files.read path).mapError (.unreadable path)
  if hexText then
    let text ← (Text.Utf8.decode bytes).mapError (.notText path)
    let digits := Text.Utf8.encode (String.ofList (hexBody text))
    (hex.decode digits).mapError (.notHex path)
  else
    return bytes

/-- The configuration in a file. -/
def Files.loadEngineConfig (files : Files) (path : String) (format : ConfigFormat := .standard) :
    Except ConfigError EngineConfig :=
  match files.readText path with
  | .error reason => .error (.unreadable path reason.message)
  | .ok text => EngineConfig.ofToml text format

/-- The configuration in a file, if one is named, with the policy of the primary context replaced,
if one is given. -/
def Files.loadConfig (files : Files) (path : Option String) (policy : Option Policy)
    (format : ConfigFormat := .standard) : Except ConfigError EngineConfig := do
  let config ← match path with
    | some path => files.loadEngineConfig path format
    | none => pure {}
  let config := match policy with
    | some policy => { config with primary := { config.primary with policy := policy } }
    | none => config
  config.validate
  return config

end EventScript
