import Matter.Codec.Parsing

/-! Parsers on encoded containers. `Denotes` says what a parser makes of given
bytes wherever they stand, a result or an error, and composes along the monad;
the loop over the members of an encoded container is a fold over these members. -/
namespace Matter.Codec
open Exits ElementType

/-- A value is a scalar or a container with its members. -/
def Value.view : Value → ValueRef ⊕ ContainerKind × List (Tag × Value)
  | bool b => .inl (.bool b)
  | uint n => .inl (.uint n)
  | int n => .inl (.int n)
  | float bits => .inl (.float bits)
  | double bits => .inl (.double bits)
  | utf8 text => .inl (.utf8 text)
  | bytes octets => .inl (.bytes octets)
  | null => .inl .null
  | struct members => .inr (.struct, members)
  | array elements => .inr (.array, untagged elements)
  | list members => .inr (.list, members)

theorem Value.view_ofRef (value : ValueRef) : (ofRef value).view = .inl value := by
  cases value <;> rfl

theorem Value.view_ofMembers (permitted : Permitted kind members) :
    (ofMembers kind members).view = .inr (kind, members) := by
  cases kind with
  | array => simp only [ofMembers, view, untagged_map_snd permitted]
  | _ => rfl

/-! `T::try_from` of a wire integer. -/
namespace Wire

def toU8? (n : UInt64) : Option UInt8 := if n.toNat < 2 ^ 8 then some n.toUInt8 else none

def toU16? (n : UInt64) : Option UInt16 := if n.toNat < 2 ^ 16 then some n.toUInt16 else none

def toU32? (n : UInt64) : Option UInt32 := if n.toNat < 2 ^ 32 then some n.toUInt32 else none

theorem of_toU8? (narrow : toU8? n = some m) : m.toUInt64 = n := by
  obtain ⟨bound, same⟩ := Option.ite_none_right_eq_some.mp narrow
  cases same
  apply UInt64.toNat_inj.mp
  rw [UInt8.toNat_toUInt64, UInt64.toNat_toUInt8, Nat.mod_eq_of_lt bound]

theorem of_toU16? (narrow : toU16? n = some m) : m.toUInt64 = n := by
  obtain ⟨bound, same⟩ := Option.ite_none_right_eq_some.mp narrow
  cases same
  apply UInt64.toNat_inj.mp
  rw [UInt16.toNat_toUInt64, UInt64.toNat_toUInt16, Nat.mod_eq_of_lt bound]

theorem of_toU32? (narrow : toU32? n = some m) : m.toUInt64 = n := by
  obtain ⟨bound, same⟩ := Option.ite_none_right_eq_some.mp narrow
  cases same
  apply UInt64.toNat_inj.mp
  rw [UInt32.toNat_toUInt64, UInt64.toNat_toUInt32, Nat.mod_eq_of_lt bound]

end Wire

namespace TlvReader
open Value
variable {ε σ α β : Type}

/-- How a run from `r` ends: `n` bytes on with `depth` containers open, or in an
error. -/
inductive Ends (r : TlvReader) (n depth : Nat) :
    Except ε α → EStateM.Result ε TlvReader α → Prop
  | ok (moved : Moved r r' n depth r.elementBudget) :
    Ends r n depth (.ok a) (.ok a r')
  | error : Ends r n depth (.error e) (.error e r')

/-- With `opened` containers open, `m` makes `verdict` of `bytes` wherever they
stand; after a success it has consumed them and `left` containers are open. -/
def Denotes (m : ParserM ε α) (opened : Nat) (bytes : Bytes) (verdict : Except ε α)
    (left : Nat) : Prop :=
  ∀ r tail, r.InBounds → r.depth = opened → r.rest = bytes ++ tail →
    Ends r bytes.length left verdict (m.run r)

namespace Denotes
variable {m : ParserM ε α} {next : α → ParserM ε β} {first second : Bytes} {d e f : Nat}

theorem pure (a : α) (d : Nat) : Denotes (Pure.pure a : ParserM ε α) d [] (.ok a) d :=
  fun _ _ _ opened _ => .ok ⟨rfl, rfl, opened, rfl⟩

theorem throw (error : ε) (d : Nat) (bytes : Bytes) (left : Nat) :
    Denotes (MonadExcept.throw error : ParserM ε α) d bytes (.error error) left :=
  fun _ _ _ _ _ => .error

theorem bind (head : Denotes m d first verdict e)
    (tail : ∀ a, verdict = .ok a → Denotes (next a) e second (g a) f) :
    Denotes (m >>= next) d (first ++ second) (verdict >>= g) f := by
  intro r after bound opened here
  rw [List.append_assoc] at here
  have ended := head r _ bound opened here
  generalize ran : m.run r = result at ended
  cases ended with
  | error =>
    rw [run_bind_error ran]
    exact .error
  | ok moved =>
    rename_i r' a
    have ended := tail a rfl r' after (moved.inBounds bound here) moved.depth (moved.rest_eq here)
    rw [run_bind_ok ran]
    generalize (next a).run r' = result at ended
    change Ends r (first ++ second).length f (g a) result
    generalize g a = verdict at ended
    cases ended with
    | error => exact .error
    | ok onward =>
      rw [List.length_append]
      rw [moved.budget] at onward
      exact .ok (moved.trans onward)

theorem except (check : Except ε α) (d : Nat) :
    Denotes (MonadExcept.ofExcept check) d [] check d := by
  cases check with
  | ok a => exact pure a d
  | error error => exact throw error d [] d

theorem bind_except {bytes : Bytes} (tail : ∀ a, check = .ok a → Denotes (next a) d bytes (g a) f) :
    Denotes (MonadExcept.ofExcept check >>= next) d bytes (check >>= g) f := by
  cases check with
  | ok a => exact tail a rfl
  | error error => exact throw error d bytes f

theorem bind_check (head : Denotes m d first verdict e) (check : α → Except ε β) :
    Denotes (do let a ← m; MonadExcept.ofExcept (check a)) d first (verdict >>= check) e := by
  have whole := head.bind fun a _ => except (check a) e
  rwa [List.append_nil] at whole

theorem bind_pure (head : Denotes m d first verdict e) (f : α → β) :
    Denotes (do let a ← m; return f a) d first (do let a ← verdict; return f a) e :=
  head.bind_check fun a => .ok (f a)

end Denotes

section Elements
variable {wrap : Error → ε} {cut : ε} {next : ElementRef → ParserM ε α} {bytes : Bytes}
  {verdict : Except ε α} {d left : Nat} {tag : Tag}

theorem denotes_of_nextRef (reads : ∀ r tail, r.InBounds → r.depth = d → r.rest = h ++ tail →
      ∃ r', nextRef.run r = .ok (some element) r' ∧
        Moved r r' h.length e r.elementBudget)
    (rest : Denotes (next element) e bytes verdict left) :
    Denotes (nextElement wrap cut >>= next) d (h ++ bytes) verdict left := by
  have head : Denotes (nextElement wrap cut) d h (.ok element) e := by
    intro r tail bound opened here
    obtain ⟨r', ran, moved⟩ := reads r tail bound opened here
    rw [nextElement_ok.mpr ran]
    exact .ok moved
  exact head.bind (g := fun _ => verdict) fun _ same => by cases same; exact rest

theorem denotes_scalar {value : ValueRef}
    (rest : Denotes (next (.scalar tag value.beforeIs1)) d bytes verdict left) :
    Denotes (nextElement wrap cut >>= next) d (value.encode tag ++ bytes) verdict left :=
  denotes_of_nextRef (fun _ _ bound opened here => opened ▸ nextRef_scalar bound here) rest

theorem denotes_start (shallow : d < maxDepth)
    (rest : Denotes (next (.containerStart tag kind)) (d + 1) bytes verdict left) :
    Denotes (nextElement wrap cut >>= next) d (encodeTag tag (.container kind) ++ bytes) verdict
      left :=
  denotes_of_nextRef (fun _ _ bound opened here => by
    subst opened
    exact nextRef_start bound here shallow) rest

theorem denotes_end (opened : 0 < d)
    (rest : Denotes (next .containerEnd) (d - 1) bytes verdict left) :
    Denotes (nextElement wrap cut >>= next) d (endOfContainer.code :: bytes) verdict
      left :=
  denotes_of_nextRef (h := [endOfContainer.code]) (fun _ _ bound same here => by
    subst same
    exact nextRef_end bound here opened) rest

end Elements

/-- The loop over the members of an open container, up to its end. -/
def forEachMember (wrap : Error → ε) (cut : ε) (member : σ → ElementRef → ParserM ε σ) (init : σ) :
    ParserM ε σ :=
  elements wrap cut (fun state element =>
    match element with
    | .containerEnd => return .leave state
    | element => return .again (← member state element)) init

/-- The same loop over members that are already known. -/
def foldMembers (scalar : σ → Tag → ValueRef → Except ε σ)
    (container : σ → Tag → ContainerKind → List (Tag × Value) → Except ε σ) :
    σ → List (Tag × Value) → Except ε σ
  | state, [] => .ok state
  | state, (tag, value) :: rest => do
    let state ← match value.view with
      | .inl value => scalar state tag value
      | .inr (kind, members) => container state tag kind members
    foldMembers scalar container state rest

/-- What a step makes of a member with `d` containers open: nothing is read for
a scalar, and the body of a container is read to its end. -/
structure Handles (member : σ → ElementRef → ParserM ε σ)
    (scalar : σ → Tag → ValueRef → Except ε σ)
    (container : σ → Tag → ContainerKind → List (Tag × Value) → Except ε σ) (d : Nat) : Prop where
  scalar : ∀ state tag value,
    Denotes (member state (.scalar tag value)) d [] (scalar state tag value) d
  container : ∀ state tag kind members, Permitted kind members →
    Denotes (member state (.containerStart tag kind)) (d + 1)
      (encodeMembers members ++ [ElementType.endOfContainer.code])
      (container state tag kind (beforeIs1Members members)) d

theorem permitted_beforeIs1 (permitted : Permitted kind members) :
    Permitted kind (beforeIs1Members members) := by
  intro array
  have anonymous := permitted array
  clear permitted
  induction members with
  | nil => simp [beforeIs1Members]
  | cons member rest ih =>
    simp only [List.forall_mem_cons, beforeIs1Members] at anonymous ⊢
    exact ⟨anonymous.1, ih anonymous.2⟩

section Loop
variable {wrap : Error → ε} {cut : ε} {member : σ → ElementRef → ParserM ε σ}
  {scalar : σ → Tag → ValueRef → Except ε σ}
  {container : σ → Tag → ContainerKind → List (Tag × Value) → Except ε σ} {d : Nat}

/-- What the steps of a loop make of the members one after the other. -/
inductive Folds (member : σ → ElementRef → ParserM ε σ) (d : Nat) :
    σ → List (Tag × Value) → Except ε σ → Prop
  | nil (s : σ) : Folds member d s [] (.ok s)
  | scalar {rest : List (Tag × Value)}
    (here : Denotes (member s (.scalar tag value.beforeIs1)) d [] verdict d)
    (later : ∀ s', verdict = .ok s' → Folds member d s' rest (g s')) :
    Folds member d s ((tag, ofRef value) :: rest) (verdict >>= g)
  | container {members rest : List (Tag × Value)} (permitted : Permitted kind members)
    (here : Denotes (member s (.containerStart tag kind)) (d + 1)
      (encodeMembers members ++ [ElementType.endOfContainer.code]) verdict d)
    (later : ∀ s', verdict = .ok s' → Folds member d s' rest (g s')) :
    Folds member d s ((tag, ofMembers kind members) :: rest) (verdict >>= g)

namespace Folds
variable {s s' : σ} {tag : Tag} {rest : List (Tag × Value)} {verdict : Except ε σ}

theorem scalar_pure (plain : value.beforeIs1 = value)
    (taken : member s (.scalar tag value) = Pure.pure s') (later : Folds member d s' rest verdict) :
    Folds member d s ((tag, ofRef value) :: rest) verdict := by
  have here : Denotes (member s (.scalar tag value.beforeIs1)) d [] (.ok s') d := by
    rw [plain, taken]
    exact .pure s' d
  exact .scalar (g := fun _ => verdict) here fun _ same => by cases same; exact later

theorem bytes (taken : member s (.scalar tag (.bytes octets)) = Pure.pure s')
    (later : Folds member d s' rest verdict) :
    Folds member d s ((tag, .bytes octets) :: rest) verdict := by
  exact .scalar_pure rfl taken later

theorem uint (taken : member s (.scalar tag (.uint n)) = Pure.pure s')
    (later : Folds member d s' rest verdict) :
    Folds member d s ((tag, .uint n) :: rest) verdict := by
  exact .scalar_pure rfl taken later

theorem bool (taken : member s (.scalar tag (.bool b)) = Pure.pure s')
    (later : Folds member d s' rest verdict) :
    Folds member d s ((tag, .bool b) :: rest) verdict := by
  exact .scalar_pure rfl taken later

theorem struct (here : Denotes (member s (.containerStart tag .struct)) (d + 1)
      (encodeMembers members ++ [endOfContainer.code]) (.ok s') d)
    (later : Folds member d s' rest verdict) :
    Folds member d s ((tag, .struct members) :: rest) verdict := by
  change Folds member d s ((tag, ofMembers .struct members) :: rest) verdict
  have permitted : Permitted .struct members := nofun
  exact .container (g := fun _ => verdict) permitted here fun _ same => by cases same; exact later

end Folds

theorem Handles.folds (handles : Handles member scalar container d) (members : List (Tag × Value))
    (s : σ) : Folds member d s members
      (foldMembers scalar container s (beforeIs1Members members)) := by
  induction members generalizing s with
  | nil => exact .nil s
  | cons first rest ih =>
    obtain ⟨tag, value⟩ := first
    rw [beforeIs1Members, foldMembers]
    obtain ⟨ref, rfl⟩ | ⟨kind, inner, permitted, rfl⟩ := value.eq_ofRef_or_ofMembers
    · rw [beforeIs1_ofRef, view_ofRef]
      exact .scalar (handles.scalar s tag ref.beforeIs1) fun next _ => ih next
    · rw [beforeIs1_ofMembers, view_ofMembers (permitted_beforeIs1 permitted)]
      exact .container permitted (handles.container s tag kind inner permitted) fun next _ => ih next

theorem denotes_loopElements (folds : Folds member d s members verdict) (opened : 0 < d)
    (shallow : d < maxDepth) (fueled : (encodeMembers members).length < n) :
    Denotes (loopElements wrap cut (fun state element =>
        match element with
        | .containerEnd => return .leave state
        | element => return .again (← member state element)) n s) d
      (encodeMembers members ++ [endOfContainer.code]) verdict (d - 1) := by
  obtain ⟨fuel, rfl⟩ : ∃ fuel, n = fuel + 1 := ⟨n - 1, by omega⟩
  induction folds generalizing fuel with
  | nil s =>
    exact denotes_end opened (.pure s (d - 1))
  | scalar here _ ih =>
    rename_i s tag verdict g value rest _
    have positive := encode_length_pos tag (ofRef value)
    rw [encodeMembers, List.length_append] at fueled
    obtain ⟨fuel, rfl⟩ : ∃ less, fuel = less + 1 := ⟨fuel - 1, by omega⟩
    rw [loopElements, encodeMembers, List.append_assoc, encode_ofRef]
    refine denotes_scalar ?_
    have step := here.bind (g := g) fun next same => ih next same fuel (by omega)
    simpa [bind_assoc] using step
  | container permitted here _ ih =>
    rename_i kind s tag verdict g inner rest _
    have positive := encode_length_pos tag (ofMembers kind inner)
    rw [encodeMembers, List.length_append] at fueled
    obtain ⟨fuel, rfl⟩ : ∃ less, fuel = less + 1 := ⟨fuel - 1, by omega⟩
    rw [loopElements, encodeMembers, List.append_assoc, encode_ofMembers tag permitted, enclose,
      List.append_assoc, List.append_assoc]
    refine denotes_start shallow ?_
    have step := here.bind (g := g) fun next same => ih next same fuel (by omega)
    simpa [bind_assoc] using step

theorem denotes_forEachMember_folds (folds : Folds member d init members verdict) (opened : 0 < d)
    (shallow : d < maxDepth) :
    Denotes (forEachMember wrap cut member init) d
      (encodeMembers members ++ [endOfContainer.code]) verdict (d - 1) := by
  intro r tail bound same here
  have fueled : (encodeMembers members).length < r.remaining + 1 := by
    have size := congrArg List.length here
    simp only [rest, List.length_drop, List.length_append] at size
    rw [remaining]
    omega
  exact denotes_loopElements folds opened shallow fueled r tail bound same here

theorem denotes_forEachMember (handles : Handles member scalar container d) (opened : 0 < d)
    (shallow : d < maxDepth) (members : List (Tag × Value)) (init : σ) :
    Denotes (forEachMember wrap cut member init) d
      (encodeMembers members ++ [endOfContainer.code])
      (foldMembers scalar container init (beforeIs1Members members)) (d - 1) :=
  denotes_forEachMember_folds (handles.folds members init) opened shallow

end Loop

end TlvReader
end Matter.Codec
