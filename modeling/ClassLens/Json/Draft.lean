import ClassLens.Json.Token

/-! # JSON drafts

A draft is what can be seen of a JSON value in a text that may break off: a tree whose leaves may
say "here the reading fails, for this reason". Every reader of JSON in this library walks a draft
from the left, so the first fault that it meets is the one it reports, whatever comes after.

* `Draft`, `Items`, `Members`: values, the insides of lists, the insides of objects.
* `Draft.ofTokens`: the draft at the start of a list of tokens, and the tokens after it.
* `Source.ofString`: the draft of a whole text, and whether text follows it.
* `Draft.skip`: passes over a value.
* `Draft.whole`: a value as such, with a limit on how deep it nests.

**Main statements.** `Draft.whole_skip`: what can be read whole can be passed over. -/

namespace ClassLens.Json

mutual
/-- What can be seen of a value. -/
inductive Draft where
  | null
  | bool (value : Bool)
  | number (value : Number)
  | string (chars : Except Fault String)
  | list (items : Items)
  | object (members : Members)
  /-- No value can be read here. -/
  | broken (strict lenient : Fault)

/-- What can be seen of a list after its opening bracket or after one of its items and the comma
that follows it. -/
inductive Items where
  | close
  /-- Neither an item nor the closing bracket can be read here. -/
  | cut (fault : Fault)
  /-- The text ends after a comma. -/
  | dangling
  | item (value : Draft) (rest : Items)

/-- What can be seen of an object after its opening brace or after one of its members and the comma
that follows it. -/
inductive Members where
  | close
  /-- Neither a member nor the closing brace can be read here. -/
  | cut (strict lenient : Fault)
  | member (name : Except Fault String) (value : Draft) (rest : Members)
end

/-! ### From tokens to drafts -/

mutual
/-- The draft at the start of a list of tokens, and the tokens after it. -/
def Draft.read : Nat → List Token → Draft × List Token
  | 0, ts => (.broken .malformed .malformed, ts)
  | _ + 1, [] => (.broken .truncated .truncated, [])
  | fuel + 1, t :: ts =>
    match t with
    | .null => (.null, ts)
    | .bool b => (.bool b, ts)
    | .number n => (.number n, ts)
    | .string cs => (.string cs, ts)
    | .openList => let (items, ts) := Items.readFirst fuel ts; (.list items, ts)
    | .openObject => let (members, ts) := Members.readFirst fuel ts; (.object members, ts)
    | .broken strict lenient => (.broken strict lenient, [])
    | .brokenString strict lenient => (.broken strict lenient, [])
    | _ => (.broken .malformed .malformed, [])

/-- The inside of a list, after its opening bracket. -/
def Items.readFirst : Nat → List Token → Items × List Token
  | 0, ts => (.cut .malformed, ts)
  | _ + 1, [] => (.cut .truncated, [])
  | _ + 1, .closeList :: ts => (.close, ts)
  | fuel + 1, t :: ts => Items.readItem fuel (t :: ts)

/-- An item and the rest of its list. -/
def Items.readItem : Nat → List Token → Items × List Token
  | 0, ts => (.cut .malformed, ts)
  | fuel + 1, ts =>
    let (value, ts) := Draft.read fuel ts
    let (rest, ts) := Items.readNext fuel ts
    (.item value rest, ts)

/-- The inside of a list, after an item. -/
def Items.readNext : Nat → List Token → Items × List Token
  | 0, ts => (.cut .malformed, ts)
  | _ + 1, [] => (.cut .truncated, [])
  | _ + 1, .closeList :: ts => (.close, ts)
  | _ + 1, [.comma] => (.dangling, [])
  | _ + 1, .comma :: .closeList :: ts => (.cut .malformed, ts)
  | fuel + 1, .comma :: ts => Items.readItem fuel ts
  | _ + 1, _ :: ts => (.cut .malformed, ts)

/-- The inside of an object, after its opening brace. -/
def Members.readFirst : Nat → List Token → Members × List Token
  | 0, ts => (.cut .malformed .malformed, ts)
  | _ + 1, .closeObject :: ts => (.close, ts)
  | fuel + 1, ts => Members.readMember fuel ts

/-- A member and the rest of its object. -/
def Members.readMember : Nat → List Token → Members × List Token
  | 0, ts => (.cut .malformed .malformed, ts)
  | _ + 1, [] => (.cut .truncated .truncated, [])
  | fuel + 1, .string name :: ts =>
    let (value, ts) :=
      match ts with
      | [] => (Draft.broken .truncated .truncated, [])
      | .colon :: ts => Draft.read fuel ts
      | _ :: ts => (Draft.broken .malformed .malformed, ts)
    let (rest, ts) := Members.readNext fuel ts
    (.member name value rest, ts)
  | _ + 1, .brokenString strict lenient :: ts => (.cut strict lenient, ts)
  | _ + 1, _ :: ts => (.cut .malformed .malformed, ts)

/-- The inside of an object, after a member. -/
def Members.readNext : Nat → List Token → Members × List Token
  | 0, ts => (.cut .malformed .malformed, ts)
  | _ + 1, [] => (.cut .truncated .truncated, [])
  | _ + 1, .closeObject :: ts => (.close, ts)
  | fuel + 1, .comma :: ts => Members.readMember fuel ts
  | _ + 1, _ :: ts => (.cut .malformed .malformed, ts)
end

/-- The draft at the start of a list of tokens, and the tokens after it: of three calls in a row
one at least takes a token. -/
def Draft.ofTokens (ts : List Token) : Draft × List Token :=
  Draft.read (3 * ts.length + 3) ts

/-- A text read as one JSON value: its draft, and whether more text follows the value. -/
structure Source where
  draft : Draft
  ends : Bool

/-- Reads a text. -/
def Source.ofString (s : String) : Source :=
  let (draft, rest) := Draft.ofTokens (tokens s.toList)
  ⟨draft, rest.isEmpty⟩

/-- What a reader of drafts makes of a whole text: text after the value is refused, once the value
itself is read. -/
def Source.decode {α : Type} (read : Draft → Except Fault α) (t : Source) : Except Fault α :=
  match read t.draft with
  | .ok a => if t.ends then .ok a else .error .malformed
  | .error fault => .error fault

/-! ### Readers of drafts -/

mutual
/-- Passes over a value. -/
def Draft.skip : Draft → Except Fault Unit
  | .list items => items.skip
  | .object members => members.skip
  | .broken _ lenient => .error lenient
  | _ => .ok ()

/-- Passes over the inside of a list. -/
def Items.skip : Items → Except Fault Unit
  | .close => .ok ()
  | .cut fault => .error fault
  | .dangling => .error .truncated
  | .item value rest =>
    match value.skip with
    | .ok _ => rest.skip
    | .error fault => .error fault

/-- Passes over the inside of an object. -/
def Members.skip : Members → Except Fault Unit
  | .close => .ok ()
  | .cut _ lenient => .error lenient
  | .member _ value rest =>
    match value.skip with
    | .ok _ => rest.skip
    | .error fault => .error fault
end

mutual
/-- A value as such, of at most `room` levels of lists and objects. -/
def Draft.whole (room : Nat) : Draft → Except Fault Value
  | .null => .ok .null
  | .bool b => .ok (.bool b)
  | .number .huge => .error .malformed
  | .number n => .ok (.number n)
  | .string (.ok s) => .ok (.string s)
  | .string (.error fault) => .error fault
  | .list items =>
    match room with
    | 0 => .error .malformed
    | room + 1 => (items.whole room).map .list
  | .object members =>
    match room with
    | 0 => .error .malformed
    | room + 1 => (members.whole room).map .object
  | .broken strict _ => .error strict

/-- The items of a list. -/
def Items.whole (room : Nat) : Items → Except Fault (List Value)
  | .close => .ok []
  | .cut fault => .error fault
  | .dangling => .error .truncated
  | .item value rest =>
    match value.whole room with
    | .ok v => (rest.whole room).map (v :: ·)
    | .error fault => .error fault

/-- The members of an object. -/
def Members.whole (room : Nat) : Members → Except Fault (List (String × Value))
  | .close => .ok []
  | .cut strict _ => .error strict
  | .member (.error fault) _ _ => .error fault
  | .member (.ok name) value rest =>
    match value.whole room with
    | .ok v => (rest.whole room).map ((name, v) :: ·)
    | .error fault => .error fault
end

/-- How deep lists and objects may nest. -/
def maxDepth : Nat := 127

/-- The JSON value of a text. -/
def Value.ofString (s : String) : Except Fault Value :=
  (Source.ofString s).decode (Draft.whole maxDepth)

/-! ### What both readers accept -/

mutual
/-- What can be read whole can be passed over. -/
theorem Draft.whole_skip {room : Nat} : ∀ {d : Draft} {v : Value}, d.whole room = .ok v → d.skip = .ok ()
  | .null, _, _ | .bool _, _, _ | .number _, _, _ | .string _, _, _ => by simp [Draft.skip]
  | .list items, v, h => by
    cases room with
    | zero => simp [Draft.whole] at h
    | succ room =>
      cases hi : items.whole room with
      | error e => simp [Draft.whole, hi, Except.map] at h
      | ok vs => simpa [Draft.skip] using Items.whole_skip hi
  | .object members, v, h => by
    cases room with
    | zero => simp [Draft.whole] at h
    | succ room =>
      cases hi : members.whole room with
      | error e => simp [Draft.whole, hi, Except.map] at h
      | ok vs => simpa [Draft.skip] using Members.whole_skip hi
  | .broken _ _, _, h => by simp [Draft.whole] at h

theorem Items.whole_skip {room : Nat} :
    ∀ {items : Items} {vs : List Value}, items.whole room = .ok vs → items.skip = .ok ()
  | .close, _, _ => by simp [Items.skip]
  | .cut _, _, h => by simp [Items.whole] at h
  | .dangling, _, h => by simp [Items.whole] at h
  | .item value rest, vs, h => by
    cases hv : value.whole room with
    | error e => simp [Items.whole, hv] at h
    | ok v =>
      cases hr : rest.whole room with
      | error e => simp [Items.whole, hv, hr, Except.map] at h
      | ok ws => simp [Items.skip, Draft.whole_skip hv, Items.whole_skip hr]

theorem Members.whole_skip {room : Nat} :
    ∀ {members : Members} {vs : List (String × Value)},
      members.whole room = .ok vs → members.skip = .ok ()
  | .close, _, _ => by simp [Members.skip]
  | .cut _ _, _, h => by simp [Members.whole] at h
  | .member (.error _) _ _, _, h => by simp [Members.whole] at h
  | .member (.ok name) value rest, vs, h => by
    cases hv : value.whole room with
    | error e => simp [Members.whole, hv] at h
    | ok v =>
      cases hr : rest.whole room with
      | error e => simp [Members.whole, hv, hr, Except.map] at h
      | ok ws => simp [Members.skip, Draft.whole_skip hv, Members.whole_skip hr]
end

end ClassLens.Json
