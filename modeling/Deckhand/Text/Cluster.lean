import Deckhand.Unicode.Break
import Deckhand.Unicode.Emoji

namespace Deckhand.Text

open Unicode

inductive BreakClass where
  | other
  | carriageReturn
  | lineFeed
  | control
  | extend
  | joiner
  | spacing
  | prepend
  | regional
  | leading
  | vowel
  | trailing
  | openSyllable
  | closedSyllable
deriving DecidableEq, Inhabited

namespace BreakClass

def ofChar (c : Char) : BreakClass :=
  let n := c.toNat
  if c = '\r' then carriageReturn
  else if c = '\n' then lineFeed
  else if 0x20 ≤ n ∧ n < 0x7f then other
  else if n = 0x200d then joiner
  else if 0x1f1e6 ≤ n ∧ n ≤ 0x1f1ff then regional
  else if 0xac00 ≤ n ∧ n ≤ 0xd7a3 then
    if (n - 0xac00) % 28 = 0 then openSyllable else closedSyllable
  else if Unicode.control.contains c then control
  else if Unicode.extend.contains c ∨ 0x1f3fb ≤ n ∧ n ≤ 0x1f3ff then extend
  else if Unicode.spacingMark.contains c then spacing
  else if Unicode.prepend.contains c then prepend
  else if Unicode.leadingJamo.contains c then leading
  else if Unicode.vowelJamo.contains c then vowel
  else if Unicode.trailingJamo.contains c then trailing
  else other

def isControl : BreakClass → Bool
  | carriageReturn | lineFeed | control => true
  | _ => false

def joinsSyllable : BreakClass → BreakClass → Bool
  | leading, next => next = leading || next = vowel || next = openSyllable || next = closedSyllable
  | openSyllable, next | vowel, next => next = vowel || next = trailing
  | closedSyllable, next | trailing, next => next = trailing
  | _, _ => false

end BreakClass

/-- How far a sequence has come whose last part joins its first. -/
inductive Joining where
  | none
  | base
  | linked
deriving DecidableEq, Inhabited

structure Trail where
  last : BreakClass
  pictograph : Joining
  conjunct : Joining
  /-- The cluster holds a regional indicator that has no partner yet. -/
  lone : Bool
deriving DecidableEq, Inhabited

namespace Trail

def ofChar (c : Char) : Trail where
  last := .ofChar c
  pictograph := if pictographic.contains c then .base else .none
  conjunct := if conjunctConsonant.contains c then .base else .none
  lone := BreakClass.ofChar c = .regional

def joins (trail : Trail) (c : Char) : Bool :=
  let next := BreakClass.ofChar c
  if trail.last = .carriageReturn then next = .lineFeed
  else if trail.last.isControl || next.isControl then false
  else trail.last.joinsSyllable next
    || next = .extend || next = .joiner || next = .spacing
    || trail.last = .prepend
    || (trail.conjunct = .linked && conjunctConsonant.contains c)
    || (trail.pictograph = .linked && pictographic.contains c)
    || (trail.lone && next = .regional)

def push (trail : Trail) (c : Char) : Trail :=
  let next := BreakClass.ofChar c
  { last := next
    pictograph :=
      if pictographic.contains c then .base
      else if trail.pictograph = .base && next = .extend then .base
      else if trail.pictograph = .base && next = .joiner then .linked
      else .none
    conjunct :=
      if conjunctConsonant.contains c then .base
      else if trail.conjunct = .none then .none
      else if conjunctLinker.contains c then .linked
      else if next = .extend || next = .joiner then trail.conjunct
      else .none
    lone := !trail.lone && next = .regional }

end Trail

/-- The clusters of a text of which `cluster` has been read, the last character first. -/
def clustersFrom (trail : Trail) (cluster : List Char) : List Char → List (List Char)
  | [] => [cluster.reverse]
  | c :: rest =>
    if trail.joins c then clustersFrom (trail.push c) (c :: cluster) rest
    else cluster.reverse :: clustersFrom (.ofChar c) [c] rest

def clusters : List Char → List (List Char)
  | [] => []
  | c :: rest => clustersFrom (.ofChar c) [c] rest

theorem flatten_clustersFrom (trail : Trail) (cluster cs : List Char) :
    (clustersFrom trail cluster cs).flatten = cluster.reverse ++ cs := by
  induction cs generalizing trail cluster with
  | nil => simp [clustersFrom]
  | cons c rest ih =>
    rw [clustersFrom]
    split <;> simp [ih]

@[simp] theorem flatten_clusters (cs : List Char) : (clusters cs).flatten = cs := by
  cases cs with
  | nil => rfl
  | cons c rest => simp [clusters, flatten_clustersFrom]

end Deckhand.Text
