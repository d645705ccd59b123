import Geocoding.CommandLine.Invocation
import Geocoding.Proofs.Checking
import Geocoding.Proofs.Keyed

/-!
# What reading arguments keeps

A command takes values out of its arguments, each by the option or the operand that it is for. What every option and
every operand keeps is kept by reading all arguments.
-/

namespace Geocoding.CommandLine

open Checking (bind_eq_ok_iff)

/-! ### The values of arguments -/

/-- A value that arguments hold: one of them, or what is attached to the name of a long option. -/
inductive Holds (arguments : List String) : String → Prop where
  | whole (argument : String) (h : argument ∈ arguments) : Holds arguments argument
  | attached (argument value : String) (name : List Char) (h : argument ∈ arguments)
      (hs : Shape.of argument = .long name (some value)) : Holds arguments value

theorem Holds.mono {arguments arguments' : List String} {value : String} (h : Holds arguments value)
    (hs : arguments ⊆ arguments') : Holds arguments' value := by
  cases h with
  | whole _ h => exact .whole value (hs h)
  | attached argument _ name h hl => exact .attached argument value name (hs h) hl

variable {α β : Type} {V : String → Prop} {P : α → Prop} {c : Command α} {p p' : Progress α} {take : Take α}
  {name flags : List Char} {argument : String} {arguments : List String}

/-! ### One value -/

/-- Taking a value of which `V` holds keeps `P`. -/
def Preserves (V : String → Prop) (P : α → Prop) (take : Take α) : Prop :=
  ∀ value a b, V value → P a → take value a = .ok b → P b

theorem preserves_once {get : α → Option β} {set : β → α → α} {read : String → Option β}
    (h : ∀ value x a, V value → read value = some x → P a → P (set x a)) : Preserves V P (once get set read) := by
  intro value a b hv ha hb
  unfold once at hb
  split at hb
  · cases hb
  · split at hb
    · next x hx =>
      obtain rfl := Except.ok.inj hb
      exact h value x a hv hx ha
    · cases hb

/-- What has been taken has `P`, and taking what is pending and the operands that are left keeps it. -/
structure Progress.Sound (V : String → Prop) (P : α → Prop) (p : Progress α) : Prop where
  taken : P p.taken
  pending : ∀ take value, p.pending = some (take, value) → Preserves V P take ∧ ∀ v ∈ value, V v
  operands : ∀ o ∈ p.operands, Preserves V P o.take

theorem Progress.Sound.settle (h : p.Sound V P) (hp : p.settle = .ok p') : p'.Sound V P := by
  unfold Progress.settle at hp
  split at hp
  · obtain rfl := Except.ok.inj hp
    exact h
  · cases hp
  · next take value hpending =>
    obtain ⟨a, ha, hp⟩ := bind_eq_ok_iff.mp hp
    obtain rfl := Except.ok.inj hp
    obtain ⟨htake, hv⟩ := h.pending take _ hpending
    exact ⟨htake value _ a (hv value rfl) h.taken ha, nofun, h.operands⟩

theorem Progress.Sound.await (h : p.Sound V P) (ht : Preserves V P take) {value : Option String}
    (hv : ∀ v ∈ value, V v) : { p with pending := some (take, value) }.Sound V P := by
  refine ⟨h.taken, fun take' value' he => ?_, h.operands⟩
  obtain ⟨rfl, rfl⟩ : take = take' ∧ value = value' := by simpa using he
  exact ⟨ht, hv⟩

/-! ### One argument -/

/-- What an option does keeps `P`. -/
def Action.Preserves (V : String → Prop) (P : α → Prop) : Action α → Prop
  | .flag set => ∀ a b, P a → set a = .ok b → P b
  | .value take => CommandLine.Preserves V P take

/-- Every option and every operand of the command keeps `P`. -/
structure Command.Keeps (c : Command α) (V : String → Prop) (P : α → Prop) : Prop where
  options : ∀ o ∈ c.options, o.2.Preserves V P
  operands : ∀ o ∈ c.operands, Preserves V P o.take

namespace Command.Keeps

section

variable (h : c.Keeps V P)
include h

theorem option? {action : Action α} (ho : c.option? name = some action) : action.Preserves V P := by
  obtain he | hm := List.mem_cons.mp (Keyed.mem_of_lookup ho)
  · obtain ⟨-, rfl⟩ := Prod.mk.inj he
    exact nofun
  · exact h.options _ hm

end

theorem readOperand {afterMark : Bool} (hp : p.Sound V P) (ha : V argument)
    (hr : c.readOperand p afterMark argument = .ok p') : p'.Sound V P := by
  unfold Command.readOperand at hr
  split at hr
  · cases hr
  · next o operands ho =>
    obtain ⟨s, hs, hr⟩ := bind_eq_ok_iff.mp hr
    obtain rfl := Except.ok.inj hr
    have hoperands : ∀ o' ∈ o :: operands, Preserves V P o'.take := ho ▸ hp.operands
    have hleft : { s with operands }.Sound V P :=
      ⟨(hp.settle hs).taken, (hp.settle hs).pending, fun o' ho' => hoperands o' (List.mem_cons_of_mem _ ho')⟩
    exact hleft.await (hoperands o List.mem_cons_self) fun v hv => Option.mem_some.mp hv ▸ ha

theorem readValue (hp : p.Sound V P) (ha : V argument) (hr : c.readValue p argument = .ok p') : p'.Sound V P := by
  unfold Command.readValue at hr
  split at hr
  · next take hpending =>
    obtain rfl := Except.ok.inj hr
    exact hp.await (hp.pending take none hpending).1 fun v hv => Option.mem_some.mp hv ▸ ha
  · exact readOperand hp ha hr

variable (h : c.Keeps V P)
include h

theorem readLong {attached : Option String} (hp : p.Sound V P) (ha : ∀ v ∈ attached, V v)
    (hr : c.readLong p name attached = .ok p') : p'.Sound V P := by
  unfold Command.readLong at hr
  split at hr
  · cases hr
  · cases hr
  · next set ho =>
    obtain ⟨s, hs, hr⟩ := bind_eq_ok_iff.mp hr
    obtain ⟨a, ha, hr⟩ := bind_eq_ok_iff.mp hr
    obtain rfl := Except.ok.inj hr
    have hsettled := hp.settle hs
    exact ⟨h.option? ho _ a hsettled.taken ha, hsettled.pending, hsettled.operands⟩
  · next take value ho =>
    obtain ⟨s, hs, hr⟩ := bind_eq_ok_iff.mp hr
    obtain ⟨a, hv, hr⟩ := bind_eq_ok_iff.mp hr
    obtain rfl := Except.ok.inj hr
    have hsettled := hp.settle hs
    exact ⟨h.option? ho value _ a (ha value rfl) hsettled.taken hv, hsettled.pending, hsettled.operands⟩
  · next take ho =>
    obtain ⟨s, hs, hr⟩ := bind_eq_ok_iff.mp hr
    obtain rfl := Except.ok.inj hr
    exact (hp.settle hs).await (h.option? ho) nofun

theorem readShort (hp : p.Sound V P) (ha : V argument) (hr : c.readShort p flags argument = .ok p') :
    p'.Sound V P := by
  unfold Command.readShort at hr
  split at hr
  · exact readValue hp ha hr
  · split at hr
    · have hnone : ∀ v ∈ (none : Option String), V v := nofun
      exact h.readLong hp hnone hr
    · cases hr

/-! ### All arguments -/

theorem readFrom {afterMark : Bool} {r : Progress α × Option (String × List String)}
    (hv : ∀ v, Holds arguments v → V v) (hp : p.Sound V P) (hr : c.readFrom afterMark p arguments = .ok r) :
    r.1.Sound V P := by
  induction arguments generalizing afterMark p with
  | nil =>
    unfold Command.readFrom at hr
    obtain rfl := Except.ok.inj hr
    exact hp
  | cons a as ih =>
    have hrest : ∀ v, Holds as v → V v := fun v hh => hv v (hh.mono (List.subset_cons_self a as))
    have ha : V a := hv a (.whole a List.mem_cons_self)
    cases afterMark with
    | true =>
      obtain ⟨p', hp', hr⟩ := bind_eq_ok_iff.mp hr
      exact ih hrest (readOperand hp ha hp') hr
    | false =>
      unfold Command.readFrom at hr
      split at hr
      · obtain rfl := Except.ok.inj hr
        exact hp
      · split at hr
        · exact ih hrest hp hr
        · next name attached hs =>
          obtain ⟨p', hp', hr⟩ := bind_eq_ok_iff.mp hr
          refine ih hrest (h.readLong hp (fun v hm => ?_) hp') hr
          exact hv v (.attached a v name List.mem_cons_self (Option.mem_def.mp hm ▸ hs))
        · obtain ⟨p', hp', hr⟩ := bind_eq_ok_iff.mp hr
          exact ih hrest (h.readShort hp ha hp') hr
        · obtain ⟨p', hp', hr⟩ := bind_eq_ok_iff.mp hr
          exact ih hrest (readValue hp ha hp') hr

end Command.Keeps

/-- What every option and every operand of a command keeps holds of what is read. -/
theorem Command.Keeps.readAll (h : c.Keeps (Holds arguments) P) {start a : α} (hs : P start)
    (hr : c.readAll start arguments = .ok a) : P a := by
  obtain ⟨⟨p, rest⟩, hp, hr⟩ := bind_eq_ok_iff.mp hr
  obtain ⟨s, hsettled, hr⟩ := bind_eq_ok_iff.mp hr
  obtain rfl := Except.ok.inj hr
  have hstart : (⟨start, none, c.operands⟩ : Progress α).Sound (Holds arguments) P := ⟨hs, nofun, h.operands⟩
  exact ((h.readFrom (fun _ hv => hv) hstart hp).settle hsettled).taken

/-- A subcommand takes the arguments after its name. -/
theorem Command.subset_of_readFrom {afterMark : Bool} {subcommand : String} {rest : List String}
    (hr : c.readFrom afterMark p arguments = .ok (p', some (subcommand, rest))) : rest ⊆ arguments := by
  induction arguments generalizing afterMark p with
  | nil =>
    unfold Command.readFrom at hr
    cases hr
  | cons a as ih =>
    have hcons {q : Progress α} {b : Bool} (hq : c.readFrom b q as = .ok (p', some (subcommand, rest))) :
        rest ⊆ a :: as := List.subset_cons_of_subset a (ih hq)
    cases afterMark with
    | true =>
      obtain ⟨q, -, hr⟩ := bind_eq_ok_iff.mp hr
      exact hcons hr
    | false =>
      unfold Command.readFrom at hr
      split at hr
      · obtain ⟨-, he⟩ := Prod.mk.inj (Except.ok.inj hr)
        obtain ⟨-, rfl⟩ := Prod.mk.inj (Option.some.inj he)
        exact List.subset_cons_self a as
      · split at hr
        · exact hcons hr
        all_goals
          obtain ⟨q, -, hr⟩ := bind_eq_ok_iff.mp hr
          exact hcons hr

end Geocoding.CommandLine
