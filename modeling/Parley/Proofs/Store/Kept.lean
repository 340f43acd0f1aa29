import Parley.Proofs.Json.Members
import Parley.Store.Basic

/-!
# What a store finds again

A flow that was kept as a document comes back, if it comes back at all, with its id and its version.

* `Flow.reader_toJson`: the document of a flow;
* `Store.kept_eq_ok`.
-/

namespace Parley

open Json

namespace Json.Record

variable {α β : Type}

theorem read_map (g : α → β) (r : Record α) (fs : Fields) :
    (g <$> r).read fs = Located.both (.ok g) (r.read fs) := rfl

theorem read_seq (f : Record (α → β)) (r : Record α) (fs : Fields) :
    (f <*> r).read fs = Located.both (f.read fs) (r.read fs) := rfl

end Json.Record

namespace Flow

/-- The document of a flow begins with its id and its version, and goes on. -/
theorem toJson_eq (f : Flow) :
    ∃ m ms, f.toJson =
      .object (("id", .string f.id) :: ("version", .nat f.version) :: m :: ms) := by
  obtain ⟨id, version, entry, nodes, edges, subgraphs, record⟩ := f
  rw [toJson]
  cases entry with
  | none => exact ⟨_, _, rfl⟩
  | some e => exact ⟨_, _, rfl⟩

variable {d : Document} {id : FlowId} {v n : Nat} {f : Flow}

/-- A flow has the id and the version with which its document begins. -/
theorem readerBelow_begins
    (hd : d.Begins [("id", .string (some id)), ("version", .number (some (.int v)))])
    (h : readerBelow n d = .ok f) : f.id = id ∧ f.version = v := by
  obtain ⟨members, stop, rfl, rest, rfl⟩ := hd
  cases n with
  | zero => cases h
  | succ n =>
    -- the fields are applied one after the other, the id innermost
    have hread := ofMembers_eq_ok h
    simp only [Record.read_seq, Record.read_map] at hread
    obtain ⟨_, _, hmeta, -, rfl⟩ := both_eq_ok.1 hread
    obtain ⟨_, _, hsubgraphs, -, rfl⟩ := both_eq_ok.1 hmeta
    obtain ⟨_, _, hedges, -, rfl⟩ := both_eq_ok.1 hsubgraphs
    obtain ⟨_, _, hnodes, -, rfl⟩ := both_eq_ok.1 hedges
    obtain ⟨_, _, hentry, -, rfl⟩ := both_eq_ok.1 hnodes
    obtain ⟨_, version, hversions, hversion, rfl⟩ := both_eq_ok.1 hentry
    obtain ⟨_, id', hids, hid, rfl⟩ := both_eq_ok.1 hversions
    cases hids
    have hid := field_eq_ok rfl hid
    have hversion := field_eq_ok rfl hversion
    cases hid
    obtain ⟨i, hi, rfl⟩ := map_eq_ok.1 hversion
    rw [Reader.intBetween] at hi
    split_ifs at hi
    cases hi
    exact ⟨rfl, rfl⟩

/-- A flow that was written and is read has kept its id and its version. -/
theorem reader_toJson {f' : Flow} (hv : f.version ≤ maxSignificand)
    (h : reader.ofText f.toJson.compact = .ok f') : f'.id = f.id ∧ f'.version = f.version := by
  obtain ⟨m, ms, hjson⟩ := f.toJson_eq
  have hbegins := Document.parse_begins "id" f.id "version" hv m ms
  rw [← hjson] at hbegins
  unfold Reader.ofText at h
  obtain ⟨f'', hread, h⟩ := bind_eq_ok.1 h
  split_ifs at h
  cases h
  exact readerBelow_begins hbegins hread

end Flow

namespace Store

variable {s : Store} {f f' : Flow}

/-- What is found of a flow has its id and its version. -/
theorem kept_eq_ok (hv : s.checkVersion f.version = .ok ()) (h : s.kept f = .ok f') :
    f'.id = f.id ∧ f'.version = f.version := by
  unfold kept at h
  unfold checkVersion at hv
  cases hb : s.backend with
  | memory =>
    rw [hb] at h
    cases h
    exact ⟨rfl, rfl⟩
  | sqlite =>
    rw [hb] at h hv
    simp only at h hv
    split_ifs at hv with hsmall
    have hfits : f.version ≤ maxSignificand :=
      Nat.le_sub_one_of_lt (Nat.lt_trans hsmall (by decide))
    exact Flow.reader_toJson hfits (mapError_eq_ok.1 h)

end Store

end Parley
