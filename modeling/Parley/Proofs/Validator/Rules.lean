import Parley.Proofs.Checked
import Parley.Proofs.Guard.Calls
import Parley.Validator

/-!
# What a validator text stands for

A text that compiles is a call of a rule with arguments that the rule takes.

* `Rules.compile_eq_ok_iff`: validators of any rules;
* `numbers_eq_ok_iff`: arguments that are numbers;
* `IsBuiltin`, `compile_builtin_iff`: the built-in validators, with their arguments and what they
  accept.
-/

namespace Parley.Validator

open Guard (parseCall)

variable {rules : Rules} {spec name : String} {v : Validator} {args : List Json}
    {accept : Json → Except String Json}
  {xs : List Binary64} {rule : Rule}

theorem Rules.compile_eq_ok_iff :
    rules.compile spec = .ok v ↔ ∃ call rule accept, parseCall spec = .ok call ∧
    rules.get? call.name = some rule ∧ rule.prepare call.args = .ok accept ∧
    v = ⟨Text.trim spec, accept⟩ := by
  constructor
  · intro h
    obtain ⟨call, hcall, h⟩ := bind_eq_ok.1 h
    split at h
    · cases h
    · rename_i rule hrule
      obtain ⟨accept, haccept, h⟩ := bind_eq_ok.1 h
      exact ⟨call, rule, accept, mapError_eq_ok.1 hcall, hrule, haccept, (pure_eq_ok.1 h).symm⟩
  · rintro ⟨call, rule, accept, hcall, hrule, haccept, rfl⟩
    refine bind_eq_ok.2 ⟨call, mapError_eq_ok.2 hcall, ?_⟩
    rw [hrule]
    exact bind_eq_ok.2 ⟨accept, haccept, rfl⟩

/-! ### Arguments -/

theorem expectCount_eq_ok_iff {min max : ℕ} :
    expectCount name args min max = .ok () ↔ min ≤ args.length ∧ args.length ≤ max := by
  unfold expectCount
  split_ifs <;> simp_all

theorem numbers_eq_ok_iff : numbers name args = .ok xs ↔
    ∃ ns : List Number, args = ns.map .number ∧ xs = ns.map Number.toBinary64 := by
  induction args generalizing xs with
  | nil => simp [numbers, eq_comm]
  | cons a r ih =>
    cases a with
    | number n =>
      simp only [numbers, map_eq_ok, ih]
      constructor
      · rintro ⟨_, ⟨ns, rfl, rfl⟩, rfl⟩
        exact ⟨n :: ns, rfl, rfl⟩
      · rintro ⟨ns, hargs, rfl⟩
        obtain ⟨m, ms, rfl, hm, hms⟩ := List.map_eq_cons_iff.1 hargs.symm
        cases hm
        exact ⟨_, ⟨ms, hms.symm, rfl⟩, rfl⟩
    | null | bool | string | array | object =>
      simp only [numbers, reduceCtorEq, false_iff, not_exists, not_and]
      rintro ns hargs
      obtain ⟨m, ms, -, hm, -⟩ := List.map_eq_cons_iff.1 hargs.symm
      cases hm

/-! ### Built-in validators -/

/-- The built-in validators: name, arguments, and what is accepted. -/
inductive IsBuiltin : String → List Json → (Json → Except String Json) → Prop
  | range {lo hi : Number} (h : hi.toBinary64.lt lo.toBinary64 = false) :
      IsBuiltin "range" [.number lo, .number hi] (acceptRange lo.toBinary64 hi.toBinary64)
  | length (lo : Number) (hi : Option Number) :
      IsBuiltin "length" (.number lo :: hi.toList.map .number)
        (acceptLength lo.toBinary64 (hi.map Number.toBinary64))
  | pattern {text : String} {p : Pattern} (h : Pattern.parse? text = .ok p) :
      IsBuiltin "pattern" [.string text] (acceptPattern p)
  | oneOf {options : List Json} (h : options ≠ []) :
      IsBuiltin "one_of" options (acceptOption options)
  | number : IsBuiltin "number" [] fun v => (numberOf v).map ofNumber
  | integer : IsBuiltin "integer" [] acceptInteger
  | boolean : IsBuiltin "boolean" [] acceptBoolean
  | email : IsBuiltin "email" [] acceptEmail

theorem range_isBuiltin (h : range.prepare args = .ok accept) : IsBuiltin "range" args accept := by
  obtain ⟨⟨⟩, hcount, h⟩ := bind_eq_ok.1 h
  obtain ⟨xs, hxs, h⟩ := bind_eq_ok.1 h
  obtain ⟨ns, rfl, rfl⟩ := numbers_eq_ok_iff.1 hxs
  rw [expectCount_eq_ok_iff, List.length_map] at hcount
  obtain ⟨lo, hi, rfl⟩ := List.length_eq_two.1 (hcount.2.antisymm hcount.1)
  show IsBuiltin "range" [.number lo, .number hi] accept
  dsimp only [List.map] at h
  split at h
  · cases h
  · rename_i hle
    cases h
    exact .range (Bool.eq_false_iff.2 hle)

theorem length_isBuiltin (h : length.prepare args = .ok accept) :
    IsBuiltin "length" args accept := by
  obtain ⟨⟨⟩, hcount, h⟩ := bind_eq_ok.1 h
  obtain ⟨xs, hxs, h⟩ := bind_eq_ok.1 h
  obtain ⟨ns, rfl, rfl⟩ := numbers_eq_ok_iff.1 hxs
  rw [expectCount_eq_ok_iff, List.length_map] at hcount
  match ns, hcount with
  | [lo], _ =>
    cases h
    exact .length lo none
  | [lo, hi], _ =>
    cases h
    exact .length lo (some hi)

theorem pattern_isBuiltin (h : pattern.prepare args = .ok accept) :
    IsBuiltin "pattern" args accept := by
  obtain ⟨⟨⟩, hcount, h⟩ := bind_eq_ok.1 h
  rw [expectCount_eq_ok_iff] at hcount
  obtain ⟨a, rfl⟩ := List.length_eq_one_iff.1 (hcount.2.antisymm hcount.1)
  cases a with
  | string text =>
    obtain ⟨p, hp, rfl⟩ := map_eq_ok.1 h
    exact .pattern (mapError_eq_ok.1 hp)
  | null | bool | number | array | object => cases h

theorem oneOf_isBuiltin (h : oneOf.prepare args = .ok accept) : IsBuiltin "one_of" args accept := by
  cases args with
  | nil => cases h
  | cons a r =>
    cases h
    exact .oneOf (List.cons_ne_nil a r)

/-- A rule that takes no arguments. -/
theorem args_eq_nil {x : Except String (Json → Except String Json)}
    (h : (do expectCount name args 0 0; x) = .ok accept) : args = [] ∧ x = .ok accept := by
  obtain ⟨⟨⟩, hcount, h⟩ := bind_eq_ok.1 h
  exact ⟨List.length_eq_zero_iff.1 (Nat.le_zero.1 (expectCount_eq_ok_iff.1 hcount).2), h⟩

theorem Rules.builtin_eq :
    Rules.builtin = [("boolean", boolean), ("email", email), ("integer", integer),
      ("length", length), ("number", number), ("one_of", oneOf), ("pattern", pattern),
        ("range", range)] := rfl

/-- A built-in validator is what the rule of its name makes of its arguments. -/
theorem IsBuiltin.exists_rule (h : IsBuiltin name args accept) :
    ∃ rule, Rules.builtin.get? name = some rule ∧ rule.prepare args = .ok accept := by
  rw [Rules.builtin_eq]
  cases h with
  | @range lo hi hle =>
    refine ⟨Validator.range, rfl, ?_⟩
    show (if hi.toBinary64.lt lo.toBinary64 = true then _ else _) = _
    rw [hle]
    rfl
  | length lo hi =>
    refine ⟨Validator.length, rfl, ?_⟩
    cases hi with
    | none => rfl
    | some hi => rfl
  | @pattern text p hp =>
    refine ⟨Validator.pattern, rfl, ?_⟩
    show ((Pattern.parse? text).mapError Pattern.Error.message).map acceptPattern = _
    rw [hp]
    rfl
  | oneOf hne =>
    refine ⟨Validator.oneOf, rfl, ?_⟩
    obtain ⟨a, r, rfl⟩ := List.exists_cons_of_ne_nil hne
    rfl
  | number => exact ⟨Validator.number, rfl, rfl⟩
  | integer => exact ⟨Validator.integer, rfl, rfl⟩
  | boolean => exact ⟨Validator.boolean, rfl, rfl⟩
  | email => exact ⟨Validator.email, rfl, rfl⟩

theorem isBuiltin_of_prepare (hrule : Rules.builtin.get? name = some rule)
    (h : rule.prepare args = .ok accept) :
    IsBuiltin name args accept := by
  rw [Rules.builtin_eq] at hrule
  simp only [Dict.get?] at hrule
  split_ifs at hrule with hname hname hname hname hname hname hname hname <;> cases hrule
    <;> rw [← hname]
  · obtain ⟨hargs, haccept⟩ := args_eq_nil h
    cases haccept
    exact hargs ▸ .boolean
  · obtain ⟨hargs, haccept⟩ := args_eq_nil h
    cases haccept
    exact hargs ▸ .email
  · obtain ⟨hargs, haccept⟩ := args_eq_nil h
    cases haccept
    exact hargs ▸ .integer
  · exact length_isBuiltin h
  · obtain ⟨hargs, haccept⟩ := args_eq_nil h
    cases haccept
    exact hargs ▸ .number
  · exact oneOf_isBuiltin h
  · exact pattern_isBuiltin h
  · exact range_isBuiltin h

/-- **What compiles to a built-in validator is a call of its name with arguments that it takes.** -/
theorem compile_builtin_iff : Rules.builtin.compile spec = .ok v ↔
    v.spec = Text.trim spec ∧ ∃ call, parseCall spec = .ok call ∧
      IsBuiltin call.name call.args v.accept := by
  rw [Rules.compile_eq_ok_iff]
  constructor
  · rintro ⟨call, rule, accept, hcall, hrule, haccept, rfl⟩
    exact ⟨rfl, call, hcall, isBuiltin_of_prepare hrule haccept⟩
  · rintro ⟨hspec, call, hcall, hbuiltin⟩
    obtain ⟨rule, hrule, haccept⟩ := hbuiltin.exists_rule
    obtain ⟨text, accept⟩ := v
    obtain rfl : text = Text.trim spec := hspec
    exact ⟨call, rule, accept, hcall, hrule, haccept, rfl⟩

end Parley.Validator
