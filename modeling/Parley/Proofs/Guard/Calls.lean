import Parley.Proofs.Guard.Reading

/-!
# What is read as a call

A call is a name, alone or with literals in brackets.

* `IsLiteral`: the values that can stand in a call;
* `IsCall`, `parseCall_eq_ok_iff`: the calls, and that these are what is read;
* `isLiteral_of_parseCall`: the arguments of a call.
-/

namespace Parley.Guard

variable {stop : ℕ} {name text : String} {os : List Operand} {args : List Json} {call : Call}

/-- A value that can be written in a call; its numbers are those of finite doubles. -/
inductive IsLiteral : Json → Prop
  | null : IsLiteral .null
  | bool (b : Bool) : IsLiteral (.bool b)
  | text (s : String) : IsLiteral (.string s)
  | number {x : Binary64} {n : Number} (h : Number.ofBinary64? x = some n) : IsLiteral (.number n)

/-- A name alone, or with literals in brackets. -/
inductive IsCall : List Token → Call → Prop
  | bare (name : String) : IsCall [.name name] ⟨name, []⟩
  | applied (name : String) {ts : List Token} {args : List Json}
      (h : IsArguments ts (args.map .value)) :
      IsCall (.name name :: ts) ⟨name, args⟩

theorem literals_eq_ok_iff : literals name os = .ok args ↔ os = args.map .value := by
  induction os generalizing args with
  | nil => cases args <;> simp [literals]
  | cons o r ih =>
    cases o with
    | value v =>
      rw [literals, map_eq_ok]
      constructor
      · rintro ⟨rest, hrest, rfl⟩
        rw [ih.1 hrest, List.map_cons]
      · intro h
        obtain ⟨w, rest, rfl, hw, hrest⟩ := List.map_eq_cons_iff.1 h.symm
        cases hw
        exact ⟨rest, ih.2 hrest.symm, rfl⟩
    | answer key | context key => cases args <;> simp [literals]

/-! ### Calls -/

theorem IsArguments.exists_cons {ts : List Token} (h : IsArguments ts os) :
    ∃ us, ts = .openParen :: us := by
  cases h with
  | none => exact ⟨_, rfl⟩
  | some => exact ⟨_, rfl⟩

/-- **The calls are a name, alone or with literals in brackets.** -/
theorem parseCall_eq_ok_iff :
    parseCall text = .ok call ↔ ∃ ts, tokens text.toList = .ok ts ∧ IsCall (kinds ts) call := by
  unfold parseCall
  simp only [bind_eq_ok, mapError_eq_ok]
  refine exists_congr fun ts => and_congr_right fun _ => ?_
  constructor
  · intro h
    split at h
    · cases h
    · cases h
      exact .bare _
    · rename_i pos n r _
      obtain ⟨⟨os, rest, hlt⟩, hos, h⟩ := bind_eq_ok.1 h
      obtain ⟨values, hvalues, h⟩ := bind_eq_ok.1 h
      obtain ⟨front, rfl, hfront⟩ := (arguments_reads _).sound (mapError_eq_ok.1 hos)
      obtain rfl : os = values.map .value := literals_eq_ok_iff.1 hvalues
      cases rest with
      | nil =>
        cases h
        rw [List.append_nil, kinds_cons]
        exact .applied _ hfront
      | cons q s => cases h
    · cases h
  · intro h
    generalize hkinds : kinds ts = us at h
    cases h with
    | bare name =>
      obtain ⟨pos, r, rfl, hr⟩ := kinds_eq_cons hkinds
      obtain rfl := List.map_eq_nil_iff.1 hr
      rfl
    | @applied name us args h =>
      obtain ⟨pos, r, rfl, rfl⟩ := kinds_eq_cons hkinds
      have hargs := (arguments_reads (byteLength text.toList)).complete r [] h fun _ _ => id
      rw [List.append_nil] at hargs
      obtain ⟨hlt, hargs⟩ := hargs
      obtain ⟨vs, hvs⟩ := h.exists_cons
      obtain ⟨pos', r', rfl, -⟩ := kinds_eq_cons hvs
      exact bind_eq_ok.2
        ⟨_, mapError_eq_ok.2 hargs, bind_eq_ok.2 ⟨args, literals_eq_ok_iff.2 rfl, rfl⟩⟩

theorem IsOperands.isLiteral {ts : List Token} (h : IsOperands ts os) :
    ∀ v, .value v ∈ os → IsLiteral v := by
  have hvalue {t : Token} {v : Json} (ht : IsOperand t (.value v)) : IsLiteral v := by
    cases ht with
    | text s => exact .text s
    | number _ hn => exact .number hn
    | truth | untruth => exact .bool _
    | null => exact .null
  induction h with
  | one ho =>
    intro v hv
    rw [← List.mem_singleton.1 hv] at ho
    exact hvalue ho
  | more ho _ ih =>
    intro v hv
    rcases List.mem_cons.1 hv with hv | hv
    · rw [← hv] at ho
      exact hvalue ho
    · exact ih v hv

theorem isLiteral_of_parseCall (h : parseCall text = .ok call) : ∀ v ∈ call.args, IsLiteral v := by
  obtain ⟨ts, -, hcall⟩ := parseCall_eq_ok_iff.1 h
  generalize kinds ts = us at hcall
  cases hcall with
  | bare => nofun
  | @applied name us args hargs =>
    intro v hv
    have hmem : Operand.value v ∈ args.map .value := List.mem_map_of_mem hv
    generalize args.map Operand.value = os at hargs hmem
    cases hargs with
    | none => cases hmem
    | some hus => exact hus.isLiteral v hmem

end Parley.Guard
