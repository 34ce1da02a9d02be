import AndInverter.Encoding.NameRecord
import AndInverter.Proofs.Encoding.Rendering

/-!
# The record of names beside the clause set

The names stand in two files, escaped in the record and as they are in the comments of the clause
set. The record gives back every name, whatever its characters; the comments need names without
line feeds, and then they say the same as the record, in the same order.
-/
namespace AndInverter
open Text

def OrderedMap.named (names : OrderedMap UInt64 String) : List (Nat × String) :=
  names.entries.map fun (var, name) => (var.toNat, name)

namespace NameRecord

section Strings

theorem ofHexDigits?_digitChar : ∀ n < 0x20,
    ofHexDigits? '0' '0' (Nat.digitChar (n / 16)) (Nat.digitChar (n % 16)) =
      some (Char.ofNat n) := by decide

theorem stringTokens?_escape {letter decoded : Char} (begun rest : List Char)
    (known : ofEscape? letter = some decoded) :
    stringTokens? begun ('\\' :: letter :: rest) = stringTokens? (begun ++ [decoded]) rest := by
  have notCode : letter ≠ 'u' := by
    rintro rfl
    cases known
  rw [stringTokens?.eq_4 _ _ _ fun _ _ _ _ _ code => absurd code notCode, known]
  rfl

theorem stringTokens?_control {c : Char} (begun rest : List Char) (control : c.toNat < 0x20) :
    stringTokens? begun (['\\', 'u', '0', '0'] ++ controlDigits c ++ rest) =
      stringTokens? (begun ++ [c]) rest := by
  have decoded := ofHexDigits?_digitChar c.toNat control
  rw [Char.ofNat_toNat] at decoded
  simp only [controlDigits, List.cons_append, List.nil_append, stringTokens?.eq_3, decoded]
  rfl

theorem stringTokens?_plain {c : Char} (begun rest : List Char) (quote : c ≠ '"')
    (backslash : c ≠ '\\') (printable : ¬ c.toNat < 0x20) :
    stringTokens? begun (c :: rest) = stringTokens? (begun ++ [c]) rest := by
  rw [stringTokens?.eq_5 _ _ _ quote (fun _ _ _ _ _ h => absurd h backslash)
    fun _ _ h => absurd h backslash]
  simp [printable, backslash]

/-- One character, however it is written, is one character of the string. -/
theorem stringTokens?_stringChar (begun : List Char) (c : Char) (rest : List Char) :
    stringTokens? begun (stringChar c ++ rest) = stringTokens? (begun ++ [c]) rest := by
  unfold stringChar
  split
  case h_8 quote backslash _ _ _ _ _ =>
    split
    case isTrue control => exact stringTokens?_control begun rest control
    case isFalse printable => exact stringTokens?_plain begun rest quote backslash printable
  all_goals exact stringTokens?_escape begun rest rfl

/-- An escaped text is decoded to the text itself. -/
theorem stringTokens?_flatMap (begun text rest : List Char) :
    stringTokens? begun (text.flatMap stringChar ++ '"' :: rest) =
      (tokens? rest).map (.string (begun ++ text) :: ·) := by
  induction text generalizing begun with
  | nil => rw [List.append_nil, List.flatMap_nil, List.nil_append, stringTokens?.eq_2]
  | cons c text ih =>
    rw [List.flatMap_cons, List.append_assoc, stringTokens?_stringChar, ih, List.append_assoc,
      List.singleton_append]

end Strings

section Tokens
variable {piece next : List Char} {cut more : List Token}

/-- The piece of text is cut into these tokens, whatever follows it. -/
def Cuts (piece : List Char) (cut : List Token) : Prop :=
  ∀ rest, tokens? (piece ++ rest) = (tokens? rest).map (cut ++ ·)

/-- Pieces that are cut by themselves are cut the same way in a row. -/
theorem Cuts.append (first : Cuts piece cut) (second : Cuts next more) :
    Cuts (piece ++ next) (cut ++ more) := by
  intro rest
  rw [List.append_assoc, first, second, Option.map_map]
  simp [Function.comp_def]

theorem Cuts.tokens?_eq (cuts : Cuts piece cut) : tokens? piece = some cut := by
  have ended := cuts []
  rwa [List.append_nil, tokens?.eq_1, Option.map_some, List.append_nil] at ended

theorem cuts_string (text : List Char) : Cuts (string text) [.string text] := by
  intro rest
  simp only [string, List.cons_append, List.append_assoc, List.nil_append, tokens?.eq_6,
    stringTokens?_flatMap]

theorem cuts_blanks (blank : ∀ c ∈ piece, c = ' ' ∨ c = '\n') : Cuts piece [] := by
  intro rest
  induction piece with
  | nil => simp
  | cons c piece ih =>
    obtain ⟨here, later⟩ := List.forall_mem_cons.mp blank
    have skipped : tokens? (c :: (piece ++ rest)) = tokens? (piece ++ rest) := by
      rcases here with rfl | rfl <;> rfl
    rw [List.cons_append, skipped, ih later]

theorem cuts_openBrace : Cuts ['\x7b'] [.openBrace] := tokens?.eq_2

theorem cuts_closeBrace : Cuts ['\x7d'] [.closeBrace] := tokens?.eq_3

theorem cuts_colon : Cuts [':'] [.colon] := tokens?.eq_4

theorem cuts_comma : Cuts [','] [.comma] := tokens?.eq_5

def memberTokens (entry : UInt64 × String) : List Token :=
  [.string (natural entry.1.toNat), .colon, .string entry.2.toList]

theorem member_eq (var : UInt64) (name : String) : member var name =
    [' ', ' ', ' ', ' '] ++ string (natural var.toNat) ++ [':', ' '] ++ string name.toList := rfl

theorem cuts_member (entry : UInt64 × String) :
    Cuts (member entry.1 entry.2) (memberTokens entry) := by
  have indent : Cuts [' ', ' ', ' ', ' '] [] := cuts_blanks (by simp)
  have colon : Cuts [':', ' '] [.colon] := cuts_colon.append (cuts_blanks (by simp))
  rw [member_eq]
  exact ((indent.append (cuts_string _)).append colon).append (cuts_string _)

theorem cuts_members (first : UInt64 × String) (others : List (UInt64 × String)) :
    Cuts ([',', '\n'].intercalate ((first :: others).map fun (var, name) => member var name))
      ([Token.comma].intercalate ((first :: others).map memberTokens)) := by
  have comma : Cuts [',', '\n'] [.comma] := cuts_comma.append (cuts_blanks (by simp))
  induction others generalizing first with
  | nil =>
    rw [List.map_singleton, List.map_singleton, List.intercalate_singleton,
      List.intercalate_singleton]
    exact cuts_member first
  | cons second others ih =>
    rw [List.map_cons, List.map_cons, List.intercalate_cons_cons, List.map_cons, List.map_cons,
      List.intercalate_cons_cons]
    exact ((cuts_member first).append comma).append (ih second)

theorem object_cons (first : UInt64 × String) (others : List (UInt64 × String)) :
    object (first :: others) = ['\x7b', '\n'] ++
      [',', '\n'].intercalate ((first :: others).map fun (var, name) => member var name) ++
        ['\n', ' ', ' ', '\x7d'] := rfl

def objectTokens (names : List (UInt64 × String)) : List Token :=
  [Token.comma].intercalate (names.map memberTokens) ++ [.closeBrace]

theorem cuts_object (names : List (UInt64 × String)) :
    Cuts (object names) (.openBrace :: objectTokens names) := by
  cases names with
  | nil => exact cuts_openBrace.append cuts_closeBrace
  | cons first others =>
    have opening : Cuts ['\x7b', '\n'] [.openBrace] := cuts_openBrace.append (cuts_blanks (by simp))
    have indent : Cuts ['\n', ' ', ' '] [] := cuts_blanks (by simp)
    have closing : Cuts ['\n', ' ', ' ', '\x7d'] [.closeBrace] := indent.append cuts_closeBrace
    rw [object_cons]
    exact (opening.append (cuts_members first others)).append closing

theorem text_eq (names : OrderedMap UInt64 String) : (text names).toList =
    ['\x7b', '\n', ' ', ' '] ++ (string "var_to_signal".toList ++ [':', ' ']) ++
      object names.entries ++ ['\n', '\x7d'] := by
  have opening : "\x7b\n  \"var_to_signal\": ".toList =
      ['\x7b', '\n', ' ', ' '] ++ (string "var_to_signal".toList ++ [':', ' ']) := by decide +kernel
  have closing : "\n\x7d".toList = ['\n', '\x7d'] := by decide +kernel
  exact String.toList_ofList.trans (congrArg₂ (· ++ object names.entries ++ ·) opening closing)

theorem tokens?_text (names : OrderedMap UInt64 String) : tokens? (text names).toList =
    some (.openBrace :: .string "var_to_signal".toList :: .colon :: .openBrace ::
      (objectTokens names.entries ++ [.closeBrace])) := by
  have opening : Cuts ['\x7b', '\n', ' ', ' '] [.openBrace] :=
    cuts_openBrace.append (cuts_blanks (by simp))
  have colon : Cuts [':', ' '] [.colon] := cuts_colon.append (cuts_blanks (by simp))
  have feed : Cuts ['\n'] [] := cuts_blanks (by simp)
  have closing : Cuts ['\n', '\x7d'] [.closeBrace] := feed.append cuts_closeBrace
  rw [text_eq]
  exact (((opening.append ((cuts_string _).append colon)).append
    (cuts_object names.entries)).append closing).tokens?_eq

end Tokens

section Members

theorem members?_objectTokens (first : UInt64 × String) (others : List (UInt64 × String))
    (rest : List Token) : members? (objectTokens (first :: others) ++ rest) =
      some ((first :: others).map (fun entry => (natural entry.1.toNat, entry.2.toList)),
        rest) := by
  induction others generalizing first with
  | nil => rfl
  | cons second others ih =>
    have split : objectTokens (first :: second :: others) ++ rest =
        memberTokens first ++ .comma :: (objectTokens (second :: others) ++ rest) := by
      simp only [objectTokens, List.map_cons, List.intercalate_cons_cons, List.append_assoc,
        List.cons_append, List.nil_append]
    rw [split, memberTokens, List.cons_append, List.cons_append, List.singleton_append,
      members?.eq_1, ih]
    rfl

theorem mapM_readMember? (names : List (UInt64 × String)) :
    (names.map fun entry => (natural entry.1.toNat, entry.2.toList)).mapM readMember? =
      some (names.map fun (var, name) => (var.toNat, name)) := by
  induction names with
  | nil => rfl
  | cons first others ih =>
    rw [List.map_cons, List.mapM_cons, ih]
    simp [readMember?]

/-- A record reads back as the map it was written from. -/
theorem read?_text (names : OrderedMap UInt64 String) : read? (text names) = some names.named := by
  rw [read?, tokens?_text, OrderedMap.named]
  cases names.entries with
  | nil => rfl
  | cons first others =>
    have members := members?_objectTokens first others [.closeBrace]
    -- The first token is a string, so this is not the object without members.
    obtain ⟨behind, begins⟩ : ∃ behind, objectTokens (first :: others) ++ [.closeBrace] =
        .string (natural first.1.toNat) :: behind := by
      cases others with
      | nil => exact ⟨_, rfl⟩
      | cons second others => exact ⟨_, rfl⟩
    rw [begins] at members
    rw [begins, Option.bind_eq_bind, Option.bind_some, ← mapM_readMember?]
    simp only [ne_eq, not_true_eq_false, if_false, members, Option.bind_eq_bind, Option.bind_some]

end Members

end NameRecord

section Comments

theorem Dimacs.isComment_integer (z : Int) (rest : List Char) :
    isComment (integer z ++ rest) = false := by
  rw [integer]
  split
  · rfl
  · have ne_nil : natural z.natAbs ≠ [] := (isWord_natural z.natAbs).ne_nil
    obtain ⟨first, behind, digits⟩ := List.exists_cons_of_ne_nil ne_nil
    have digit : first.isDigit = true :=
      Nat.isDigit_of_mem_toDigits (by decide) (by decide) (digits ▸ List.mem_cons_self)
    rw [digits, isComment, List.cons_append, List.head?_cons]
    have other : first ≠ 'c' := by
      rintro rfl
      exact absurd digit (by decide)
    simpa using other

theorem Dimacs.isComment_clauseLine (c : Clause) : isComment (clauseLine c) = false := by
  rw [clauseLine]
  cases c.lits with
  | nil => rfl
  | cons lit others =>
    rw [List.flatMap_cons, List.append_assoc, List.append_assoc]
    exact isComment_integer lit _

/-- The only comments of a file are those that name the variables. -/
theorem Dimacs.comments_fileLines (f : Cnf) (names : OrderedMap UInt64 String) :
    ((fileLines f names).filter isComment).map readName? = names.named.map some := by
  have kept : ∀ line ∈ names.entries.map (fun (var, name) => nameLine var name),
      isComment line = true := by
    intro line hl
    obtain ⟨⟨var, name⟩, -, rfl⟩ := List.mem_map.mp hl
    rfl
  have dropped : ∀ line ∈ problemLine f.numVars f.numClauses :: f.clauses.toList.map clauseLine,
      ¬ isComment line = true := by
    intro line hl
    rcases List.mem_cons.mp hl with rfl | hl
    · exact Bool.false_ne_true
    · obtain ⟨c, -, rfl⟩ := List.mem_map.mp hl
      rw [isComment_clauseLine]
      exact Bool.false_ne_true
  rw [fileLines, List.filter_append, List.filter_eq_self.mpr kept,
    List.filter_eq_nil_iff.mpr dropped, List.append_nil, OrderedMap.named, List.map_map, List.map_map]
  exact List.map_congr_left fun entry _ => readName?_nameLine entry.1 entry.2

end Comments

/-- What two files say about the names of variables: the record is an object with these members, and
the comments of the clause set name these variables, both in this order. -/
structure OutputFiles.Naming (files : OutputFiles) (pairs : List (Nat × String)) : Prop where
  record : ∃ text, String.fromUTF8? files.names = some text ∧ NameRecord.read? text = some pairs
  comments : ∃ text, String.fromUTF8? files.cnf = some text ∧
    ((lines text.toList).filter Dimacs.isComment).map Dimacs.readName? = pairs.map some

/-- Both files of a rendering name the variables of the map, in its order. -/
theorem naming_render {names : OrderedMap UInt64 String} (f : Cnf)
    (free : ∀ entry ∈ names.entries, '\n' ∉ entry.2.toList) :
    (OutputFiles.render f names).Naming names.named where
  record := ⟨NameRecord.text names, fromUTF8?_toUTF8 _, NameRecord.read?_text names⟩
  comments := by
    refine ⟨Dimacs.text f names, fromUTF8?_toUTF8 _, ?_⟩
    rw [Dimacs.text, String.toList_ofList,
      lines_flatMap_feed (Dimacs.feed_not_mem_fileLines free)]
    exact Dimacs.comments_fileLines f names

/-- Names with quotes, backslashes, controls and what looks like an escape or a member. -/
def awkwardNames : OrderedMap UInt64 String :=
  .ofList [(18446744073709551615, "\"\\\x08\x0c\r\t\x00\x1f\x7f"), (2, "\\u0041\": \"é"), (1, ""),
    (3, "\",\r    \"4\": \"")]

theorem naming_render_awkward :
    (OutputFiles.render (.empty 0) .empty).Naming [] ∧
    (OutputFiles.render ⟨4, #[⟨[-4, 2], by decide, by decide⟩]⟩ awkwardNames).Naming
      [(18446744073709551615, "\"\\\x08\x0c\r\t\x00\x1f\x7f"), (2, "\\u0041\": \"é"), (1, ""),
        (3, "\",\r    \"4\": \"")] :=
  ⟨naming_render (.empty 0) (by decide), naming_render _ (by decide)⟩

end AndInverter
