import DeviceSync.Bytes.Hex
import DeviceSync.Text.Blank

/-!
# Declared Digests

The digest that a client declares for a payload. Payloads are encrypted, so a digest is never
compared with anything; only its form is checked. A digest with a colon names its algorithm and is
held to that algorithm's length; one without is any hexadecimal or base64 text of bounded length.
-/

namespace DeviceSync.Manifest

/-- The hash functions that a digest may name. -/
inductive Algorithm where
  | sha256
  | sha512
  | blake3
deriving DecidableEq

namespace Algorithm

def name : Algorithm → String
  | sha256 => "sha256"
  | sha512 => "sha512"
  | blake3 => "blake3"

/-- The algorithm as messages name it. -/
def title : Algorithm → String
  | sha256 => "Sha256"
  | sha512 => "Sha512"
  | blake3 => "Blake3"

def all : List Algorithm := [sha256, sha512, blake3]

/-- The algorithm with a name, whatever the case of its ASCII letters. -/
def ofName? (s : String) : Option Algorithm :=
  all.find? fun a ↦ a.name = Text.asciiLower s

/-- How many hexadecimal digits a hash has. -/
def hexLength : Algorithm → Nat
  | sha256 => 64
  | sha512 => 128
  | blake3 => 64

end Algorithm

/-- How a digest is written. -/
inductive DigestForm where
  | bare
  | tagged (a : Algorithm)
deriving DecidableEq

/-- The greatest length of a digest that names no algorithm, in octets. -/
def maxBareLength : Nat := 128

inductive DigestFlaw where
  | unknownAlgorithm (name : String)
  | wrongLength (a : Algorithm)
  | tooLong
  | foreignText
deriving DecidableEq

inductive DigestError where
  | missing
  | malformed (flaw : DigestFlaw)
deriving DecidableEq

def DigestFlaw.message : DigestFlaw → String
  | unknownAlgorithm name => s!"unknown digest algorithm '{name}'"
  | wrongLength a => s!"{a.title} digest must be {a.hexLength} hex characters"
  | tooLong => s!"digest longer than {maxBareLength} characters"
  | foreignText => "digest must be hex or base64 text"

namespace DigestError

def malformedMessage (reason : String) : String :=
  s!"malformed payload hash: {reason}"

def message : DigestError → String
  | missing => "missing payload hash"
  | malformed flaw => malformedMessage flaw.message

end DigestError

namespace DigestForm

/-- Whether a character may occur in hexadecimal text or in either alphabet of base64. -/
def isBareChar (c : Char) : Bool :=
  c.isAlphanum || c = '+' || c = '/' || c = '_' || c = '=' || c = '-'

/-- The form of the text behind the colon. -/
def ofTagged (name body : List Char) : Except DigestError DigestForm :=
  match Algorithm.ofName? (String.ofList name) with
  | none => .error (.malformed (.unknownAlgorithm (String.ofList name)))
  | some a =>
    if body.length = a.hexLength ∧ body.all Hex.isDigit then .ok (tagged a)
    else .error (.malformed (.wrongLength a))

/-- The form of a digest. -/
def ofText (s : String) : Except DigestError DigestForm :=
  if s = "" then .error .missing
  else
    match Text.cutFirst ':' s.toList with
    | some (name, body) => ofTagged name body
    | none =>
      if maxBareLength < s.utf8ByteSize then .error (.malformed .tooLong)
      else if s.toList.all isBareChar then .ok bare
      else .error (.malformed .foreignText)

end DigestForm

end DeviceSync.Manifest
