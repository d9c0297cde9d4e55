/-
Parsing expression grammars over tokens.

A grammar gives every rule an expression.  Expressions are matched from left to right,
and of two alternatives the second one is tried only if the first one fails.  What a rule
has matched at a place is kept, so that it is matched there once.  A rule may begin with
itself: then its matches grow from the shortest one.

* **`Peg.eval`** — matches an expression at a place;
* **`Grammar.call`** — matches a rule at a place;
* **`Grammar.parse`** — matches a rule at the first token.

Design notes:

* An action may refuse a match.  Then the rule fails, and none of its other alternatives is
  tried.  It may also end the parse with a fault.
* Some alternatives are there to find faults.  They are tried in strict mode only.
* Tokens are read when they are looked at for the first time.  How far they have been read can
  be asked for afterwards, because a fault among the tokens shows only when it is reached.
-/
import Std.Data.HashMap

namespace TapeMachine

/-- What an action makes of a match. -/
inductive Peg.Verdict (ν ε : Type) where
  | nodes (ns : List ν)
  | refuse
  | fault (e : ε)

/-- A match as an action sees it: its nodes and the last token before its end. -/
structure Peg.Scene (τ ν : Type) where
  nodes : List ν
  last? : Option τ

/-- A parsing expression over tokens of type `τ`, with rules `ρ` and nodes `ν`, whose actions end
the parse with faults `ε` or leave notes `ω`. -/
inductive Peg (τ ρ ν ε ω : Type) where
  | empty
  /-- One token, if it is accepted. -/
  | token (accept : τ → Option (List ν))
  | rule (r : ρ)
  | both (p q : Peg τ ρ ν ε ω)
  | either (p q : Peg τ ρ ν ε ω)
  /-- After a match of `p` no other alternative is tried. -/
  | commit (p q : Peg τ ρ ν ε ω)
  | optional (p : Peg τ ρ ν ε ω)
  | many (p : Peg τ ρ ν ε ω)
  | ahead (p : Peg τ ρ ν ε ω)
  | notAhead (p : Peg τ ρ ν ε ω)
  | act (f : Peg.Scene τ ν → List ω × Peg.Verdict ν ε) (p : Peg τ ρ ν ε ω)
  /-- An alternative for strict mode. -/
  | strictly (p : Peg τ ρ ν ε ω)
  /-- Out of strict mode. -/
  | leniently (p : Peg τ ρ ν ε ω)

variable {τ ρ ν ε ω : Type}

instance : Append (Peg τ ρ ν ε ω) := ⟨.both⟩

instance : OrElse (Peg τ ρ ν ε ω) := ⟨fun p q => .either p (q ())⟩

namespace Peg

/-- One match or more. -/
def repeated (p : Peg τ ρ ν ε ω) : Peg τ ρ ν ε ω :=
  p ++ many p

/-- One match or more, with separators between them. -/
def separated (separator p : Peg τ ρ ν ε ω) : Peg τ ρ ν ε ω :=
  p ++ many (separator ++ p)

/-- A match without its nodes. -/
def drop (p : Peg τ ρ ν ε ω) : Peg τ ρ ν ε ω :=
  act (fun _ => ([], .nodes [])) p

/-- The one node that a match becomes. -/
def build (f : List ν → ν) (p : Peg τ ρ ν ε ω) : Peg τ ρ ν ε ω :=
  act (fun s => ([], .nodes [f s.nodes])) p

/-- A match that is a fault. -/
def faulty (e : ε) (p : Peg τ ρ ν ε ω) : Peg τ ρ ν ε ω :=
  act (fun _ => ([], .fault e)) p

/-- A match that is a fault or is refused. -/
def faultyIf (f : Scene τ ν → Option ε) (p : Peg τ ρ ν ε ω) : Peg τ ρ ν ε ω :=
  act (fun s => ([], match f s with | some e => .fault e | none => .refuse)) p

/-! ### Matching -/

/-- The tokens of a text, and the notes that reading each of them leaves. -/
structure Source (τ ω : Type) where
  tokens : Array τ
  notes : τ → List ω

/-- What matching an expression comes to. -/
inductive Result (ν : Type) where
  | matched (nodes : List ν) (next : Nat)
  | failed
  | refused

/-- Why a parse ends early: there are no more tokens, or an action finds a fault. -/
inductive Halt (ε : Type) where
  | outOfTokens
  | fault (e : ε)

/-- What is known in the course of a parse. -/
structure State (ρ ν ω : Type) [BEq ρ] [Hashable ρ] where
  /-- The matches that are kept, with where they end. -/
  kept : Std.HashMap (ρ × Nat) (Option (List ν × Nat)) := {}
  /-- How many tokens have been read. -/
  reach : Nat := 0
  /-- The notes so far, the last one first. -/
  notes : List ω := []
  strict : Bool := false

variable [BEq ρ] [Hashable ρ]

/-- A step of a parse. -/
abbrev Step (ρ ν ε ω α : Type) [BEq ρ] [Hashable ρ] : Type :=
  ExceptT (Halt ε) (StateM (State ρ ν ω)) α

/-- The token at a place, which is read. -/
def read (source : Source τ ω) (place : Nat) : Step ρ ν ε ω τ := do
  match source.tokens[place]? with
  | none => throw .outOfTokens
  | some t =>
    if (← get).reach ≤ place then
      modify fun s =>
        { s with reach := place + 1, notes := (source.notes t).reverse ++ s.notes }
    return t

/-- Matches an expression as often as it goes, but at most so many times. -/
def repeatFrom (once : Nat → Step ρ ν ε ω (Result ν)) (place : Nat) :
    Nat → Step ρ ν ε ω (Result ν)
  | 0 => return .matched [] place
  | tries + 1 => do
    match ← once place with
    | .matched ns next =>
      match ← repeatFrom once next tries with
      | .matched ms last => return .matched (ns ++ ms) last
      | r => return r
    | _ => return .matched [] place

/-- Matches an expression with strict mode set, and sets it back. -/
def inMode (strict : Bool) (once : Step ρ ν ε ω (Result ν)) : Step ρ ν ε ω (Result ν) := do
  let before := (← get).strict
  modify fun s => { s with strict }
  let r ← once
  modify fun s => { s with strict := before }
  return r

/-- Matches an expression at a place, where `call` matches rules. -/
def eval (source : Source τ ω) (call : ρ → Nat → Step ρ ν ε ω (Result ν)) :
    Peg τ ρ ν ε ω → Nat → Step ρ ν ε ω (Result ν)
  | .empty, place => return .matched [] place
  | .token accept, place => do
    match accept (← read source place) with
    | some ns => return .matched ns (place + 1)
    | none => return .failed
  | .rule r, place => call r place
  | .both p q, place => do
    match ← eval source call p place with
    | .matched ns next =>
      match ← eval source call q next with
      | .matched ms last => return .matched (ns ++ ms) last
      | r => return r
    | r => return r
  | .either p q, place => do
    match ← eval source call p place with
    | .failed => eval source call q place
    | r => return r
  | .commit p q, place => do
    match ← eval source call p place with
    | .matched ns next =>
      match ← eval source call q next with
      | .matched ms last => return .matched (ns ++ ms) last
      | _ => return .refused
    | r => return r
  | .optional p, place => do
    match ← eval source call p place with
    | .matched ns next => return .matched ns next
    | _ => return .matched [] place
  | .many p, place => repeatFrom (eval source call p) place (source.tokens.size + 1)
  | .ahead p, place => do
    match ← eval source call p place with
    | .matched _ _ => return .matched [] place
    | _ => return .failed
  | .notAhead p, place => do
    match ← eval source call p place with
    | .matched _ _ => return .failed
    | _ => return .matched [] place
  | .act f p, place => do
    match ← eval source call p place with
    | .matched ns next =>
      let (notes, verdict) := f ⟨ns, if next = 0 then none else source.tokens[next - 1]?⟩
      modify fun s => { s with notes := notes.reverse ++ s.notes }
      match verdict with
      | .nodes ms => return .matched ms next
      | .refuse => return .refused
      | .fault e => throw (.fault e)
    | r => return r
  | .strictly p, place => do
    if (← get).strict then eval source call p place else return .failed
  | .leniently p, place => inMode false (eval source call p place)

end Peg

/-! ### Grammars -/

/-- How the matches of a rule are kept. -/
inductive Keeping where
  | never
  | always
  /-- The rule may begin with itself. -/
  | growing
deriving DecidableEq, Repr

/-- A grammar: the expression of every rule, and how its matches are kept. -/
structure Grammar (τ ρ ν ε ω : Type) where
  body : ρ → Peg τ ρ ν ε ω
  keeping : ρ → Keeping

namespace Grammar

open Peg

variable [BEq ρ] [Hashable ρ]

/-- A match that ends a rule.  One that was refused has failed. -/
def settled : Result ν → Option (List ν × Nat)
  | .matched ns next => some (ns, next)
  | _ => none

/-- A kept match. -/
def resumed : Option (List ν × Nat) → Result ν
  | some (ns, next) => .matched ns next
  | none => .failed

/-- Keeps a match of a rule at a place. -/
def keep (r : ρ) (place : Nat) (found : Option (List ν × Nat)) : Step ρ ν ε ω Unit :=
  modify fun s => { s with kept := s.kept.insert (r, place) found }

/-- Lets the match of a rule grow as long as it gets longer, but at most so many times. -/
def grow (r : ρ) (place : Nat) (once : Step ρ ν ε ω (Result ν)) :
    Nat → Option (List ν × Nat) → Step ρ ν ε ω (Result ν)
  | 0, best => return resumed best
  | tries + 1, best => do
    keep r place best
    match settled (← once) with
    | none => return resumed best
    | some (ns, next) =>
      if next ≤ (best.map (·.2)).getD place then return resumed best
      else grow r place once tries (some (ns, next))

/-- Matches a rule at a place.  Rules call each other at most `depth` deep. -/
def call (g : Grammar τ ρ ν ε ω) (source : Source τ ω) :
    Nat → ρ → Nat → Step ρ ν ε ω (Result ν)
  | 0, _, _ => return .failed
  | depth + 1, r, place => do
    let once := eval source (call g source depth) (g.body r) place
    match g.keeping r with
    | .never => return resumed (settled (← once))
    | .always =>
      match (← get).kept[(r, place)]? with
      | some found => return resumed found
      | none =>
        let found := settled (← once)
        keep r place found
        return resumed found
    | .growing =>
      match (← get).kept[(r, place)]? with
      | some found => return resumed found
      | none => grow r place once (source.tokens.size + 1) none

/-- The rules that can be open at one place, with room to spare. -/
def rulesPerToken : Nat := 256

/-- Matches a rule at the first token, in a mode, from what is known. -/
def parse (g : Grammar τ ρ ν ε ω) (source : Source τ ω) (start : ρ) (s : State ρ ν ω) :
    Except (Halt ε) (Result ν) × State ρ ν ω :=
  (call g source (rulesPerToken * (source.tokens.size + 2)) start 0).run s

end Grammar

end TapeMachine
