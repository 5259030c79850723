import Mathlib.Data.List.TakeWhile

/-!
Messages of the PAM stack, and the texts that travel with them and back.
-/

namespace MateScreensaver

/- The values of _pam_types.h. -/
namespace Pam

def success : Int := 0
def bufErr : Int := 5
def permDenied : Int := 6
def authErr : Int := 7
def userUnknown : Int := 10
def acctExpired : Int := 13
def convErr : Int := 19

def promptEchoOff : Int := 1
def promptEchoOn : Int := 2
def errorMsg : Int := 3
def textInfo : Int := 4

end Pam

/- gs-auth.h:30 -/
inductive GSAuthMessageStyle
  | promptEchoOn
  | promptEchoOff
  | errorMsg
  | textInfo
deriving DecidableEq, Repr

/- The value the enumeration has in C. -/
def GSAuthMessageStyle.code : GSAuthMessageStyle → Nat
  | .promptEchoOn => 0
  | .promptEchoOff => 1
  | .errorMsg => 2
  | .textInfo => 3

/- gs-auth-pam.h:30 -/
def pamStyleToGsStyle (pamStyle : Int) : GSAuthMessageStyle :=
  if pamStyle = Pam.promptEchoOn then .promptEchoOn
  else if pamStyle = Pam.promptEchoOff then .promptEchoOff
  else if pamStyle = Pam.errorMsg then .errorMsg
  else .textInfo

abbrev Bytes := List UInt8

/- MAXLEN of gs-auth-helper.c and pam-helper.c -/
def maxLen : Nat := 1024

/-- A text of C that fits, with its NUL, into a buffer of MAXLEN bytes. -/
structure ShortText where
  bytes : Bytes
  noNul : (0 : UInt8) ∉ bytes
  short : bytes.length < maxLen

/- What the bytes before the first NUL are. -/
def cString (buffer : Bytes) : Bytes := buffer.takeWhile fun b => b ≠ 0

theorem cString_of_noNul {bytes : Bytes} (h : (0 : UInt8) ∉ bytes) : cString bytes = bytes := by
  refine List.takeWhile_eq_self_iff.2 fun b hb => ?_
  have hne : b ≠ 0 := fun h0 => h (h0 ▸ hb)
  exact decide_eq_true hne

theorem ShortText.cString_bytes (t : ShortText) : cString t.bytes = t.bytes := cString_of_noNul t.noNul

/- struct pam_message -/
structure PamMessage where
  msgStyle : Int
  msg : ShortText

def PamMessage.style (m : PamMessage) : GSAuthMessageStyle := pamStyleToGsStyle m.msgStyle

theorem style_eq_promptEchoOn (m : PamMessage) : m.style = .promptEchoOn ↔ m.msgStyle = Pam.promptEchoOn := by
  rw [PamMessage.style, pamStyleToGsStyle]
  split
  · next hon => exact ⟨fun _ => hon, fun _ => rfl⟩
  · next hon =>
    refine ⟨fun h => ?_, fun h => absurd h hon⟩
    split at h
    · cases h
    · split at h <;> cases h

end MateScreensaver
