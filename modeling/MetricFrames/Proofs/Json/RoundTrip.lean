import MetricFrames.Json.Reading
import MetricFrames.Json.Writing
import Mathlib.Data.List.Basic

/-!
# Reading back JSON

A text between quotes is read back as that text, in both dialects and with or without escapes for
what is not ASCII (`readText_quoted`). Data of texts, lists and objects with distinct names
(`Json.Textual`) are read back as they were written without blanks (`read_compact`).
-/

namespace MetricFrames.Json

variable {dialect : Dialect} {ascii : Bool} {whole n : Nat} {done s : List Char} {c : Char}

/-! ### Inside a text -/

theorem readInside_quote (s : List Char) :
    readInside dialect whole done ('"' :: s) = .ok (String.ofList done.reverse, s) := by
  rw [readInside]

theorem readInside_escape {e : Char} (hc : c ≠ 'u') (he : escaped? c = some e) (s : List Char) :
    readInside dialect whole done ('\\' :: c :: s) = readInside dialect whole (e :: done) s := by
  rw [readInside]
  · simp only [he]
  · exact hc

theorem readInside_code {rest rest' : List Char} (hn : codeUnit? s = some (n, rest))
    (hc : character? dialect n rest = some (c, rest')) :
    readInside dialect whole done ('\\' :: 'u' :: s) =
      readInside dialect whole (c :: done) rest' := by
  rw [readInside]
  split
  case h_1 h => rw [hn] at h; cases h
  case h_2 m r h =>
    rw [hn] at h
    cases h
    split
    case h_1 h => rw [hc] at h; cases h
    case h_2 d r h =>
      rw [hc] at h
      cases h
      rfl

theorem readInside_plain (hquote : c ≠ '"') (hslash : c ≠ '\\') (hcontrol : 32 ≤ c.toNat)
    (s : List Char) :
    readInside dialect whole done (c :: s) = readInside dialect whole (c :: done) s := by
  rw [readInside]
  · rw [if_neg (by omega)]
  · exact fun h => hquote h
  · rintro rfl
    exact fun _ => hslash rfl
  · rintro t rfl
    exact fun _ => hslash rfl
  · rintro _ _ rfl
    exact absurd rfl hslash

/-! ### Escapes of code points -/

theorem codeUnit?_hex (hn : n < 0x10000) (hs : s ≠ []) :
    codeUnit? (Text.hex 4 n ++ s) = some (n, s) := by
  obtain ⟨e, s, rfl⟩ := List.exists_cons_of_ne_nil hs
  have hread : Text.readHex? (Text.hex 4 n) = some n := Text.readHex?_hex hn
  obtain ⟨a, b, d, f, hdigits⟩ : ∃ a b d f, Text.hex 4 n = [a, b, d, f] := ⟨_, _, _, _, rfl⟩
  rw [hdigits] at hread ⊢
  simp only [List.cons_append, List.nil_append, codeUnit?, hread, Option.map_some]

theorem character?_whole (hc : c.toNat < 0xD800 ∨ 0xDFFF < c.toNat) (s : List Char) :
    character? dialect c.toNat s = some (c, s) := by
  have hhigh : isHighHalf c.toNat = false := by
    simp only [isHighHalf, Bool.and_eq_false_iff, decide_eq_false_iff_not]
    omega
  have hlow : isLowHalf c.toNat = false := by
    simp only [isLowHalf, Bool.and_eq_false_iff, decide_eq_false_iff_not]
    omega
  simp [character?, hhigh, hlow, Char.ofNat_toNat]

theorem character?_pair (dialect : Dialect) {high low : Nat} (hhigh : isHighHalf high = true)
    (hlow : isLowHalf low = true) (hs : s ≠ []) :
    character? dialect high (codeEscape low ++ s) = some (Char.ofNat (joinHalves high low), s) := by
  have hsmall : low < 0x10000 := by
    simp only [isLowHalf, Bool.and_eq_true, decide_eq_true_eq] at hlow
    omega
  have hnext : lowHalf? (codeEscape low ++ s) = some (low, s) := by
    simp only [codeEscape, List.cons_append, lowHalf?, codeUnit?_hex hsmall hs]
    exact Option.filter_some_pos hlow
  simp [character?, hhigh, hnext]

/-- The halves of a character beyond the first plane make that character. -/
theorem joinHalves_unitEscapes (hlarge : 0x10000 ≤ n) :
    joinHalves (0xD800 + (n - 0x10000) / 0x400) (0xDC00 + (n - 0x10000) % 0x400) = n := by
  unfold joinHalves
  omega

theorem readInside_unitEscapes (hs : s ≠ []) :
    readInside dialect whole done (unitEscapes c ++ s) =
      readInside dialect whole (c :: done) s := by
  have hvalid : c.toNat < 0xD800 ∨ (0xDFFF < c.toNat ∧ c.toNat < 0x110000) := c.valid
  rw [unitEscapes]
  split
  case isTrue h =>
    exact readInside_code (codeUnit?_hex h hs) (character?_whole (by omega) s)
  case isFalse h =>
    have hhigh : isHighHalf (0xD800 + (c.toNat - 0x10000) / 0x400) = true := by
      simp only [isHighHalf, Bool.and_eq_true, decide_eq_true_eq]
      omega
    have hlow : isLowHalf (0xDC00 + (c.toNat - 0x10000) % 0x400) = true := by
      simp only [isLowHalf, Bool.and_eq_true, decide_eq_true_eq]
      omega
    have hchar : Char.ofNat (joinHalves (0xD800 + (c.toNat - 0x10000) / 0x400)
        (0xDC00 + (c.toNat - 0x10000) % 0x400)) = c := by
      rw [joinHalves_unitEscapes (by omega), Char.ofNat_toNat]
    have hpair := character?_pair dialect hhigh hlow hs
    rw [hchar] at hpair
    rw [List.append_assoc]
    exact readInside_code (codeUnit?_hex (by omega) (by simp [codeEscape])) hpair

/-! ### Texts -/

theorem readInside_charText (hs : s ≠ []) :
    readInside dialect whole done (charText ascii c ++ s) =
      readInside dialect whole (c :: done) s := by
  rw [charText]
  split
  case isTrue h => subst h; exact readInside_escape (by decide) rfl s
  case isFalse hquote =>
  split
  case isTrue h => subst h; exact readInside_escape (by decide) rfl s
  case isFalse hslash =>
  split
  case isTrue h => subst h; exact readInside_escape (by decide) rfl s
  split
  case isTrue h => subst h; exact readInside_escape (by decide) rfl s
  split
  case isTrue h => subst h; exact readInside_escape (by decide) rfl s
  split
  case isTrue h =>
    have hc : c = Char.ofNat 8 := by rw [← h, Char.ofNat_toNat]
    subst hc
    exact readInside_escape (by decide) rfl s
  split
  case isTrue h =>
    have hc : c = Char.ofNat 12 := by rw [← h, Char.ofNat_toNat]
    subst hc
    exact readInside_escape (by decide) rfl s
  split
  case isTrue h =>
    exact readInside_code (codeUnit?_hex (by omega) hs) (character?_whole (by omega) s)
  case isFalse hcontrol =>
  split
  case isTrue => exact readInside_unitEscapes hs
  case isFalse => exact readInside_plain hquote hslash (by omega) s

/-- A text between quotes is read back as that text. -/
theorem readText_quoted (dialect : Dialect) (ascii : Bool) (t rest : List Char) :
    readText dialect (t.flatMap (charText ascii) ++ '"' :: rest) = .ok (String.ofList t, rest) := by
  have hread : ∀ (t done : List Char) (whole : Nat),
      readInside dialect whole done (t.flatMap (charText ascii) ++ '"' :: rest) =
        .ok (String.ofList (done.reverse ++ t), rest) := by
    intro t
    induction t with
    | nil =>
      intro done whole
      rw [List.flatMap_nil, List.nil_append, readInside_quote, List.append_nil]
    | cons c t ih =>
      intro done whole
      rw [List.flatMap_cons, List.append_assoc, readInside_charText (by simp), ih,
        List.reverse_cons, List.append_assoc, List.singleton_append]
  exact hread t [] _

/-! ### Values -/

/-- Data of texts, lists and objects, in which the names of each object are distinct. -/
inductive Textual : Data → Prop
  | text (t : String) : Textual (.text t)
  | list {items : List Data} (each : ∀ d ∈ items, Textual d) : Textual (.list items)
  | object {members : Members Data} (distinct : (members.map (·.1)).Nodup)
      (each : ∀ m ∈ members, Textual m.2) : Textual (.object members)

variable {d : Data}

theorem skipGap_cons (hc : isGap c = false) (s : List Char) : skipGap (c :: s) = c :: s := by
  simp [skipGap, hc]

/-- The text of a value starts with a quote or an opening bracket. -/
theorem exists_compact_eq_cons (ascii : Bool) (h : Textual d) :
    ∃ c s, compact ascii d = c :: s ∧ isGap c = false ∧ c ≠ ']' := by
  cases h with
  | text t => exact ⟨'"', _, rfl, by decide, by decide⟩
  | list => exact ⟨'[', _, rfl, by decide, by decide⟩
  | object => exact ⟨'\x7b', _, rfl, by decide, by decide⟩

theorem skipGap_compact (ascii : Bool) (h : Textual d) (s : List Char) :
    skipGap (compact ascii d ++ s) = compact ascii d ++ s := by
  obtain ⟨c, t, hcompact, hgap, -⟩ := exists_compact_eq_cons ascii h
  rw [hcompact, List.cons_append, skipGap_cons hgap]

/-- A value is read back inside any number of others, whatever comes after it, with as much fuel as
its text is long. -/
def ReadsBack (ascii : Bool) (d : Data) : Prop :=
  ∀ fuel depth rest, (compact ascii d).length ≤ fuel →
    readValue .document fuel depth (compact ascii d ++ rest) = .ok (d, rest)

theorem readsBack_text (t : String) : ReadsBack ascii (.text t) := by
  intro fuel depth rest hfuel
  cases fuel with
  | zero => cases hfuel
  | succ fuel =>
    have hcompact : compact ascii (.text t) ++ rest =
        '"' :: (t.toList.flatMap (charText ascii) ++ '"' :: rest) := by
      simp [compact, atomText, quoted]
    have hread := readText_quoted .document ascii t.toList rest
    rw [hcompact]
    simp only [readValue, hread, Except.map, String.ofList_toList]

/-! ### Lists -/

theorem compactItems_cons_cons (d e : Data) (items : List Data) :
    compactItems ascii (d :: e :: items) =
      compact ascii d ++ ',' :: compactItems ascii (e :: items) := rfl

theorem exists_compactItems_eq_cons (ascii : Bool) (h : Textual d) (items : List Data) :
    ∃ c s, compactItems ascii (d :: items) = c :: s ∧ isGap c = false ∧ c ≠ ']' := by
  obtain ⟨c, s, hcompact, hgap, hclosing⟩ := exists_compact_eq_cons ascii h
  cases items with
  | nil => exact ⟨c, s ++ [']'], by rw [compactItems, hcompact]; rfl, hgap, hclosing⟩
  | cons e items =>
    exact ⟨c, _, by rw [compactItems_cons_cons, hcompact, List.cons_append], hgap, hclosing⟩

theorem readItems_compactItems {items : List Data} (hsome : items ≠ [])
    (htextual : ∀ d ∈ items, Textual d) (hreads : ∀ d ∈ items, ReadsBack ascii d) (fuel depth : Nat)
    (done : List Data) (rest : List Char) (hfuel : (compactItems ascii items).length ≤ fuel) :
    readItems .document fuel depth done (compactItems ascii items ++ rest) =
      .ok (done.reverse ++ items, rest) := by
  induction items generalizing fuel done with
  | nil => exact absurd rfl hsome
  | cons d items ih =>
    have hd := hreads d List.mem_cons_self
    cases items with
    | nil =>
      have hlength : (compactItems ascii [d]).length = (compact ascii d).length + 1 := by
        simp [compactItems]
      obtain ⟨fuel, rfl⟩ : ∃ more, fuel = more + 1 := ⟨fuel - 1, by omega⟩
      have hvalue := hd fuel depth (']' :: rest) (by omega)
      have htext : compactItems ascii [d] ++ rest = compact ascii d ++ ']' :: rest := by
        simp [compactItems]
      rw [htext, readItems, hvalue]
      simp only [skipGap_cons (show isGap ']' = false by decide), List.reverse_cons]
    | cons e items =>
      have hlength : (compactItems ascii (d :: e :: items)).length =
          (compact ascii d).length + 1 + (compactItems ascii (e :: items)).length := by
        rw [compactItems_cons_cons, List.length_append, List.length_cons]
        omega
      obtain ⟨fuel, rfl⟩ : ∃ more, fuel = more + 1 := ⟨fuel - 1, by omega⟩
      have hvalue := hd fuel depth (',' :: (compactItems ascii (e :: items) ++ rest)) (by omega)
      have hrest := ih (by simp) (fun x hx => htextual x (List.mem_cons_of_mem _ hx))
        (fun x hx => hreads x (List.mem_cons_of_mem _ hx)) fuel (d :: done) (by omega)
      have hgap : skipGap (compactItems ascii (e :: items) ++ rest) =
          compactItems ascii (e :: items) ++ rest := by
        obtain ⟨c, s, hitems, hgap, -⟩ :=
          exists_compactItems_eq_cons ascii (htextual e (by simp)) items
        rw [hitems, List.cons_append, skipGap_cons hgap]
      rw [compactItems_cons_cons, List.append_assoc, List.cons_append, readItems, hvalue]
      simp only [skipGap_cons (show isGap ',' = false by decide), hgap, hrest, List.reverse_cons,
        List.append_assoc, List.singleton_append]

theorem readValue_list {c : Char} {s t : List Char} (hgap : skipGap t = c :: s) (hc : c ≠ ']')
    (fuel depth : Nat) :
    readValue .document (fuel + 1) depth ('[' :: t) =
      (readItems .document fuel (depth + 1) [] (c :: s)).map fun (items, rest) =>
        (.list items, rest) := by
  rw [readValue, hgap]
  split
  case h_1 h => exact absurd (List.cons.inj h).1 hc
  case h_2 => rfl

theorem readsBack_list {items : List Data} (htextual : ∀ d ∈ items, Textual d)
    (hreads : ∀ d ∈ items, ReadsBack ascii d) : ReadsBack ascii (.list items) := by
  intro fuel depth rest hfuel
  have hlength : (compact ascii (.list items)).length = (compactItems ascii items).length + 1 := by
    simp [compact]
  obtain ⟨fuel, rfl⟩ : ∃ more, fuel = more + 1 := ⟨fuel - 1, by omega⟩
  cases items with
  | nil => rfl
  | cons d items =>
    have hitems := readItems_compactItems (by simp) htextual hreads fuel (depth + 1) [] rest
      (by omega)
    obtain ⟨c, s, hfirst, hgap, hclosing⟩ :=
      exists_compactItems_eq_cons ascii (htextual d List.mem_cons_self) items
    rw [compact, List.cons_append]
    rw [hfirst, List.cons_append] at hitems ⊢
    rw [readValue_list (skipGap_cons hgap _) hclosing, hitems]
    rfl

/-! ### Objects -/

theorem put_of_not_mem {name : String} {members : Members Data}
    (h : name ∉ members.map (·.1)) (d : Data) : members.put name d = members ++ [(name, d)] := by
  induction members with
  | nil => rfl
  | cons m members ih =>
    obtain ⟨hm, hmembers⟩ := not_or.mp (List.mem_cons.not.mp h)
    rw [Members.put, if_neg (Ne.symm hm), ih hmembers, List.cons_append]

theorem compactMembers_singleton (name : String) (d : Data) :
    compactMembers ascii [(name, d)] = '"' :: (name.toList.flatMap (charText ascii) ++
      '"' :: ':' :: (compact ascii d ++ ['\x7d'])) := by
  simp [compactMembers, quoted]

theorem compactMembers_cons_cons (name : String) (d : Data) (m : String × Data)
    (members : Members Data) :
    compactMembers ascii ((name, d) :: m :: members) =
      '"' :: (name.toList.flatMap (charText ascii) ++
        '"' :: ':' :: (compact ascii d ++ ',' :: compactMembers ascii (m :: members))) := by
  simp [compactMembers, quoted]

theorem exists_compactMembers_eq_cons (ascii : Bool) (m : String × Data) (members : Members Data) :
    ∃ s, compactMembers ascii (m :: members) = '"' :: s := by
  cases members with
  | nil => exact ⟨_, compactMembers_singleton m.1 m.2⟩
  | cons n members => exact ⟨_, compactMembers_cons_cons m.1 m.2 n members⟩

theorem readMembers_last (fuel depth : Nat) (done : Members Data) (name : String)
    (htextual : Textual d) (hreads : ReadsBack ascii d) (hfuel : (compact ascii d).length ≤ fuel)
    (rest : List Char) :
    readMembers .document (fuel + 1) depth done ('"' :: (name.toList.flatMap (charText ascii) ++
        '"' :: ':' :: (compact ascii d ++ '\x7d' :: rest))) = .ok (done.put name d, rest) := by
  have hname := readText_quoted .document ascii name.toList
    (':' :: (compact ascii d ++ '\x7d' :: rest))
  have hvalue := hreads fuel depth ('\x7d' :: rest) hfuel
  rw [readMembers, hname]
  simp only [skipGap_cons (show isGap ':' = false by decide), skipGap_compact ascii htextual,
    hvalue, skipGap_cons (show isGap '\x7d' = false by decide), String.ofList_toList]

theorem readMembers_next (fuel depth : Nat) (done : Members Data) (name : String)
    (htextual : Textual d) (hreads : ReadsBack ascii d) (hfuel : (compact ascii d).length ≤ fuel)
    (rest : List Char) :
    readMembers .document (fuel + 1) depth done ('"' :: (name.toList.flatMap (charText ascii) ++
        '"' :: ':' :: (compact ascii d ++ ',' :: rest))) =
      readMembers .document fuel depth (done.put name d) (skipGap rest) := by
  have hname := readText_quoted .document ascii name.toList
    (':' :: (compact ascii d ++ ',' :: rest))
  have hvalue := hreads fuel depth (',' :: rest) hfuel
  rw [readMembers, hname]
  simp only [skipGap_cons (show isGap ':' = false by decide), skipGap_compact ascii htextual,
    hvalue, skipGap_cons (show isGap ',' = false by decide), String.ofList_toList]

theorem readMembers_compactMembers {members : Members Data} (hsome : members ≠ [])
    (htextual : ∀ m ∈ members, Textual m.2) (hreads : ∀ m ∈ members, ReadsBack ascii m.2)
    (fuel depth : Nat) (done : Members Data) (hdistinct : ((done ++ members).map (·.1)).Nodup)
    (rest : List Char) (hfuel : (compactMembers ascii members).length ≤ fuel) :
    readMembers .document fuel depth done (compactMembers ascii members ++ rest) =
      .ok (done ++ members, rest) := by
  induction members generalizing fuel done with
  | nil => exact absurd rfl hsome
  | cons m members ih =>
    obtain ⟨name, d⟩ := m
    have htext := htextual (name, d) List.mem_cons_self
    have hd := hreads (name, d) List.mem_cons_self
    have hnew : name ∉ done.map (·.1) := by
      rw [List.map_append, List.nodup_append] at hdistinct
      intro hmem
      exact hdistinct.2.2 name hmem name List.mem_cons_self rfl
    cases members with
    | nil =>
      rw [compactMembers_singleton] at hfuel ⊢
      simp only [List.length_cons, List.length_append] at hfuel
      obtain ⟨fuel, rfl⟩ : ∃ more, fuel = more + 1 := ⟨fuel - 1, by omega⟩
      have hmember := readMembers_last fuel depth done name htext hd (by dsimp only at *; omega)
        rest
      simp only [List.cons_append, List.append_assoc, List.nil_append]
      rw [hmember, put_of_not_mem hnew]
    | cons n members =>
      rw [compactMembers_cons_cons] at hfuel ⊢
      simp only [List.length_cons, List.length_append] at hfuel
      obtain ⟨fuel, rfl⟩ : ∃ more, fuel = more + 1 := ⟨fuel - 1, by omega⟩
      have hmember := readMembers_next fuel depth done name htext hd (by dsimp only at *; omega)
        (compactMembers ascii (n :: members) ++ rest)
      have hdistinct' : (((done ++ [(name, d)]) ++ n :: members).map (·.1)).Nodup := by
        rwa [List.append_assoc, List.singleton_append]
      have hrest := ih (by simp) (fun x hx => htextual x (List.mem_cons_of_mem _ hx))
        (fun x hx => hreads x (List.mem_cons_of_mem _ hx)) fuel _ hdistinct' (by omega)
      obtain ⟨s, hfirst⟩ := exists_compactMembers_eq_cons ascii n members
      have hgap : skipGap (compactMembers ascii (n :: members) ++ rest) =
          compactMembers ascii (n :: members) ++ rest := by
        rw [hfirst, List.cons_append, skipGap_cons (by decide)]
      simp only [List.cons_append, List.append_assoc]
      rw [hmember, hgap, put_of_not_mem hnew, hrest, List.append_assoc, List.singleton_append]

theorem readValue_object {s t : List Char} (hgap : skipGap t = '"' :: s) (fuel depth : Nat) :
    readValue .document (fuel + 1) depth ('\x7b' :: t) =
      (readMembers .document fuel (depth + 1) [] ('"' :: s)).map fun (members, rest) =>
        (.object members, rest) := by
  rw [readValue, hgap]
  rfl

theorem readsBack_object {members : Members Data} (hdistinct : (members.map (·.1)).Nodup)
    (htextual : ∀ m ∈ members, Textual m.2) (hreads : ∀ m ∈ members, ReadsBack ascii m.2) :
    ReadsBack ascii (.object members) := by
  intro fuel depth rest hfuel
  have hlength : (compact ascii (.object members)).length =
      (compactMembers ascii members).length + 1 := by
    simp [compact]
  obtain ⟨fuel, rfl⟩ : ∃ more, fuel = more + 1 := ⟨fuel - 1, by omega⟩
  cases members with
  | nil => rfl
  | cons m members =>
    have hmembers := readMembers_compactMembers (by simp) htextual hreads fuel (depth + 1) []
      hdistinct rest (by omega)
    obtain ⟨s, hfirst⟩ := exists_compactMembers_eq_cons ascii m members
    rw [compact, List.cons_append]
    rw [hfirst, List.cons_append] at hmembers ⊢
    rw [readValue_object (skipGap_cons (by decide) _), hmembers]
    rfl

/-! ### Texts of values -/

theorem readsBack (ascii : Bool) (h : Textual d) : ReadsBack ascii d := by
  induction h with
  | text t => exact readsBack_text t
  | list each ih => exact readsBack_list each ih
  | object distinct each ih => exact readsBack_object distinct each ih

/-- Data of texts, lists and objects are read back as they were written. -/
theorem read_compact (h : Textual d) : read .document (compact ascii d) = .ok d := by
  have hvalue := readsBack ascii h (2 * (compact ascii d).length + 2) 0 [] (by omega)
  have hgap := skipGap_compact ascii h []
  rw [List.append_nil] at hvalue hgap
  rw [read, hgap, hvalue]
  rfl

end MetricFrames.Json
