import Rollout.Text.Units

/-
Folding of long lines. A text that is longer than a line is broken at blanks between words,
and a quoted text without such blanks anywhere but inside an escape, with a backslash
before the break. Lengths and places count UTF-16 code units.
-/
namespace Rollout
namespace Yaml
namespace Folding

/-- The greatest length of a line, and the least length of what stands behind the
indentation. -/
def lineWidth : Nat := 80

def contentWidth : Nat := 20

/-- A line that is being measured. -/
structure Progress where
  place : Nat
  /-- Where the line is full. -/
  full : Nat
  /-- The last blank between words. -/
  split : Option Nat
  previous : Option Nat
  escapeStart : Nat
  /-- The place behind the last escape. -/
  escapeFinish : Nat
  /-- Where breaks go, the latest first, and whether a backslash comes before each. -/
  folds : List (Nat × Bool)
  /-- Whether there is no room for even one escape. -/
  hopeless : Bool

def space : Nat := 0x20

def isSpace (u : Option Nat) : Bool := u = some 0x20 || u = some 0x09

def isSpaceOrBreak (u : Option Nat) : Bool := isSpace u || u = some 0x0A

/-- How many units of an escape follow its backslash. -/
def escapeLength (u : Option Nat) : Nat :=
  if u = some 'x'.toNat then 3 else if u = some 'u'.toNat then 5 else if u = some 'U'.toNat then 9
  else 1

/-- Passes over blanks that stretch beyond the full line. -/
def passBlanks (text : Array Nat) : Nat → Nat → Option Nat → Nat × Option Nat
  | 0, place, _ => (place, text[place]?)
  | fuel + 1, place, previous =>
    if isSpace previous then passBlanks text fuel (place + 1) text[place]? else (place, text[place]?)

/-- Goes on by one unit, or by one escape. -/
def step (quoted : Bool) (indent stretch : Nat) (text : Array Nat) (u : Nat) (p : Progress) : Progress :=
  let escapes := quoted && u = '\\'.toNat
  let place := if escapes then p.place + escapeLength text[p.place + 1]? else p.place
  let p := if escapes then { p with escapeStart := p.place, escapeFinish := place + 1 } else p
  if u = 0x0A then
    { p with
      place := place + 1, full := place + indent + stretch, split := none, previous := some u }
  else
    let next := text[place + 1]?
    let splits := u = space && p.previous.isSome && !isSpaceOrBreak p.previous
      && next.isSome && !isSpaceOrBreak next
    let split := if splits then some place else p.split
    if place < p.full then { p with place := place + 1, split := split, previous := some u }
    else
      match split with
      | some blank =>
        { p with
          place := place + 1, full := blank + stretch, split := none, previous := some u
          folds := (blank, false) :: p.folds }
      | none =>
        if quoted then
          let (place', u') := passBlanks text text.size place p.previous
          let fold := if p.escapeFinish < place' then place' - 2 else p.escapeStart - 1
          if p.folds.any fun f => f.1 = fold && f.2 then { p with hopeless := true }
          else
            { p with
              place := place' + 1, full := fold + stretch, split := none, previous := u'
              folds := (fold, true) :: p.folds }
        else { p with place := place + 1, split := split, previous := some u }

/-- Measures the whole text. -/
def measure (quoted : Bool) (indent stretch : Nat) (text : Array Nat) : Nat → Progress → Progress
  | 0, p => p
  | fuel + 1, p =>
    match text[p.place]? with
    | none => p
    | some u =>
      let p' := step quoted indent stretch text u p
      if p'.hopeless then p' else measure quoted indent stretch text fuel p'

/-- The units between two places. -/
def slice (text : List Nat) (start finish : Nat) : List Nat := (text.take finish).drop start

/-- Breaks a text at places given in ascending order. -/
def broken (indent : Nat) (text : List Nat) : List (Nat × Bool) → List Nat
  | [] => []
  | (fold, escaped) :: rest =>
    let finish := (rest.head?.map (·.1)).getD text.length
    let margin := 0x0A :: List.replicate indent space
    if fold = 0 then margin ++ slice text 0 finish ++ broken indent text rest
    else
      (if escaped then slice text fold (fold + 1) ++ ['\\'.toNat] else [])
        ++ margin ++ slice text (fold + 1) finish ++ broken indent text rest

/-- Folds a text for an indentation. Where the first line starts further to the right, its
start is given. -/
def fold (quoted : Bool) (indent : Nat) (start : Option Nat) (text : List Nat) : List Nat :=
  let stretch := max (1 + contentWidth) (1 + lineWidth - indent)
  if text.length ≤ stretch then text
  else
    let late := start.any (lineWidth - contentWidth < ·)
    let full := if late then lineWidth - indent else lineWidth - start.getD indent
    let initial : Progress := ⟨0, full, none, none, 0, 0, if late then [(0, false)] else [], false⟩
    let p := measure quoted indent stretch text.toArray (text.length + 1) initial
    if p.hopeless then text
    else
      let folds := p.folds.reverse
      match folds with
      | [] => text
      | (first, _) :: _ => slice text 0 first ++ broken indent text folds

end Folding
end Yaml
end Rollout
