import AndInverter.OutputFiles
import AndInverter.Proofs.Aag.SymbolNames
import AndInverter.Proofs.Cnf.DimacsRoundTrip
import AndInverter.Proofs.Encoding.Endings

/-!
# The rendered clause set

The file of a clause set says what the clause set and the names say, and nothing else: a name may
hold blanks, look like a header or like literals, and still stands on its own line as one comment.
Names with a line feed would break this; no circuit that can be read gives such a name.
-/
namespace AndInverter
open Outcome Text

theorem fromUTF8?_toUTF8 (s : String) : String.fromUTF8? s.toUTF8 = some s := by
  have valid : s.toUTF8.IsValidUTF8 := s.isValidUTF8
  exact dif_pos valid

/-- The bytes are a text with one line for each name, one for the problem and one for each clause,
and reading the text gives back the names, both counts and the clauses. -/
def Dimacs.Carries (bytes : ByteArray) (f : Cnf) (names : OrderedMap UInt64 String) : Prop :=
  ∃ text, String.fromUTF8? bytes = some text ∧ lines text.toList = fileLines f names ∧
    read? text = some (contents f names)

/-- A rendered clause set carries its names and clauses if no name holds a line feed. -/
theorem carries_render {names : OrderedMap UInt64 String} (f : Cnf)
    (free : ∀ entry ∈ names.entries, '\n' ∉ entry.2.toList) :
    Dimacs.Carries (OutputFiles.render f names).cnf f names := by
  refine ⟨Dimacs.text f names, fromUTF8?_toUTF8 _, ?_, Dimacs.read?_text free⟩
  rw [Dimacs.text, String.toList_ofList]
  exact lines_flatMap_feed (Dimacs.feed_not_mem_fileLines free)

/-- A file of names without line feeds reads back exactly. The encoding of a circuit from a file has
such names only, its literals stay within the declared variables, and its file reads back too. -/
theorem render_reads_back :
    (∀ (f : Cnf) (names : OrderedMap UInt64 String),
      (∀ entry ∈ names.entries, '\n' ∉ entry.2.toList) →
        Dimacs.Carries (OutputFiles.render f names).cnf f names) ∧
    ∀ bytes a e, (Aag.encode bytes a).outcome = .ok e →
      (∀ entry ∈ e.signals.names.entries, '\n' ∉ entry.2.toList) ∧
      (∀ lits ∈ e.cnf.literalLists, ∀ lit ∈ lits,
        1 ≤ lit.natAbs ∧ lit.natAbs ≤ e.cnf.numVars.toNat) ∧
      Dimacs.Carries (OutputFiles.render e.cnf e.signals.names).cnf e.cnf e.signals.names := by
  refine ⟨fun f _ free => carries_render f free, ?_⟩
  intro bytes a e encoded
  obtain ⟨c, readable, encoded⟩ := Aag.encode_eq_ok_iff.mp encoded
  have encodes := encodes_of_encode encoded
  have free : ∀ entry ∈ e.signals.names.entries, '\n' ∉ entry.2.toList :=
    Circuit.signals_forall (p := fun name => '\n' ∉ name.toList) encodes.signals_eq
      fun entry symbol => (Aag.isSymbolName_of_mem_symbols readable entry symbol).whole
  refine ⟨free, ?_, carries_render e.cnf free⟩
  intro lits hl lit hlit
  obtain ⟨nonzero, le⟩ := encodes.declared (Aag.fits_of_read readable) lits hl lit hlit
  exact ⟨Int.natAbs_pos.mpr nonzero, le⟩

/-- Names that look like a header, like a clause and like an end of comments. -/
def disguisedText : String := "aag 3 2 0 1 1\n2\n4\n6\n6 2 4\ni0 p cnf 9 9\ni1  -1 0\no0 c\n"

/-- A clause set of one empty clause, with the largest variable named after a header. -/
theorem render_reads_back_disguised :
    Dimacs.Carries (OutputFiles.render ⟨0, #[⟨[], by decide, by decide⟩]⟩
      (.ofList [(18446744073709551615, "p cnf 9 9\r")])).cnf ⟨0, #[⟨[], by decide, by decide⟩]⟩
      (.ofList [(18446744073709551615, "p cnf 9 9\r")]) ∧
    ∃ e, (Aag.encode disguisedText.toUTF8 (.ofList [("c", true)])).outcome = .ok e ∧
      e.signals.nameOf 1 = some "p cnf 9 9" ∧
      Dimacs.Carries (OutputFiles.render e.cnf e.signals.names).cnf e.cnf e.signals.names := by
  obtain ⟨written, encodings⟩ := render_reads_back
  refine ⟨written _ _ (by decide), ?_⟩
  have readable : ∃ e, (Aag.encode disguisedText.toUTF8 (.ofList [("c", true)])).outcome = .ok e ∧
      e.signals.nameOf 1 = some "p cnf 9 9" := ⟨_, rfl, rfl⟩
  obtain ⟨e, encoded, name⟩ := readable
  obtain ⟨_, _, carries⟩ := encodings _ _ e encoded
  exact ⟨e, encoded, name, carries⟩

end AndInverter
