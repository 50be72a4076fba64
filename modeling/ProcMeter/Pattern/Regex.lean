import ProcMeter.Unicode.Named

/-! Regular expressions and what they match. An expression moves through a text:
its meaning is the set of places that it can reach from a set of places. A place
is a position between characters, from 0 before the first to the length of the
text, and a set of places is a natural number whose bits are the positions.
An expression is found in a text when it reaches any place from all of them. -/
namespace ProcMeter.Pattern

/-- What is asked of the characters around a place. -/
inductive Look where
  | textStart
  | textEnd
  | lineStart
  | lineEnd
  /-- Line boundaries where a carriage return, a line feed, or both end a line. -/
  | returnLineStart
  | returnLineEnd
  | wordBoundary (unicode : Bool)
  | noWordBoundary (unicode : Bool)
  | wordStart (unicode : Bool)
  | wordEnd (unicode : Bool)
  /-- No word character before the place. -/
  | halfWordStart (unicode : Bool)
  /-- No word character after the place. -/
  | halfWordEnd (unicode : Bool)
  deriving DecidableEq

inductive Regex where
  | empty
  /-- One character of a set. -/
  | char (s : CharSet)
  | look (l : Look)
  | seq (a b : Regex)
  | alt (a b : Regex)
  /-- At least `min` times, and at most `max` times if there is a bound. -/
  | repeated (min : Nat) (max : Option Nat) (r : Regex)
  /-- An expression in parentheses that capture. -/
  | group (r : Regex)

/-- A word character in ASCII: a letter, a digit or an underscore. -/
def asciiWordChars : CharSet := ⟨[(0x30, 0x39), (0x41, 0x5A), (0x5F, 0x5F), (0x61, 0x7A)]⟩

/-- Whether there is a character, and it is a word character. -/
def isWord (unicode : Bool) (c : Option Char) : Bool :=
  match c with
  | none => false
  | some c => (if unicode then Unicode.wordChars else asciiWordChars).contains c

/-- Whether a place satisfies a look, given the characters before and after it. -/
def Look.holds (before after : Option Char) : Look → Bool
  | textStart => before.isNone
  | textEnd => after.isNone
  | lineStart => before.isNone || before == some '\n'
  | lineEnd => after.isNone || after == some '\n'
  | returnLineStart =>
    before.isNone || before == some '\n' || (before == some '\r' && after != some '\n')
  | returnLineEnd =>
    after.isNone || after == some '\r' || (after == some '\n' && before != some '\r')
  | wordBoundary u => isWord u before != isWord u after
  | noWordBoundary u => isWord u before == isWord u after
  | wordStart u => !isWord u before && isWord u after
  | wordEnd u => isWord u before && !isWord u after
  | halfWordStart u => !isWord u before
  | halfWordEnd u => !isWord u after

/-- A place: the characters before and after it. -/
abbrev Place := Option Char × Option Char

/-- The places of a text after the character `before`, from first to last. -/
def placesAfter (before : Option Char) : List Char → List Place
  | [] => [(before, none)]
  | c :: cs => (before, some c) :: placesAfter (some c) cs

/-- All places of a text. -/
def places (text : List Char) : List Place := placesAfter none text

/-- The places at which `p` holds. -/
def placesWhere (p : Place → Bool) : List Place → Nat
  | [] => 0
  | a :: as => (if p a then 1 else 0) + 2 * placesWhere p as

/-- Applies `f` a number of times. It stops where nothing is reached, or nothing
changes. -/
def applied (f : Nat → Nat) : Nat → Nat → Nat
  | 0, s => s
  | n + 1, s =>
    let t := f s
    if t == s then s else applied f n t

/-- All that is reached from `s` by applying `f` up to so many times. -/
def reached (f : Nat → Nat) : Nat → Nat → Nat
  | 0, s => s
  | n + 1, s =>
    let t := s ||| f s
    if t == s then s else reached f n t

namespace Regex

/-- The places that the expression reaches from the places `s` of a text. What is
reached can grow only as often as there are places. -/
def image (text : List Place) : Regex → Nat → Nat
  | empty, s => s
  | char c, s => 2 * (s &&& placesWhere (fun p => p.2.any c.contains) text)
  | look l, s => s &&& placesWhere (fun p => l.holds p.1 p.2) text
  | seq a b, s => image text b (image text a s)
  | alt a b, s => image text a s ||| image text b s
  | repeated min max r, s =>
    let more := match max with
      | none => text.length
      | some m => Nat.min (m - min) text.length
    reached (image text r) more (applied (image text r) min s)
  | group r, s => image text r s

/-- Whether the expression matches anywhere in a text. -/
def isFoundIn (r : Regex) (text : List Char) : Bool :=
  let ps := places text
  r.image ps (Nat.pow 2 ps.length - 1) != 0

end Regex

end ProcMeter.Pattern
