/-
Documents are told by their compact text.

* `Json.Plain`, `Json.Definite`: documents of the host's entities; definite ones have no `null`
  and no number that would be written as one;
* `Json.eq_of_quote_append`: a text between quotes ends where it seems to end;
* `Json.head_compact`: the kind of a document is told by the first character of its text;
* `Json.eq_of_compact_append`: **a definite document is told by its text, whatever follows**.

Only one of the two documents has to be definite: the text of a definite document is not that of
any other.
-/
import DiceHost.Proofs.Numeric.Text
import DiceHost.Proofs.Text.Hex
import DiceHost.Json.Node

namespace DiceHost.Json

open Numeric

/-! ### Documents -/

/-- A document without numbers of the 64-bit format. -/
inductive Plain : Json → Prop
  | null : Plain .null
  | bool (b : Bool) : Plain (.bool b)
  | int (n : ℤ) : Plain (.int n)
  | single (x : Binary32) : Plain (.single x)
  | str (s : String) : Plain (.str s)
  | arr {items : List Json} (h : ∀ j ∈ items, Plain j) : Plain (.arr items)
  | obj {entries : List (String × Json)} (h : ∀ e ∈ entries, Plain e.2) : Plain (.obj entries)

/-- A plain document in which nothing is written as `null`. -/
inductive Definite : Json → Prop
  | bool (b : Bool) : Definite (.bool b)
  | int (n : ℤ) : Definite (.int n)
  | single {x : Binary32} (h : x.isFinite = true) : Definite (.single x)
  | str (s : String) : Definite (.str s)
  | arr {items : List Json} (h : ∀ j ∈ items, Definite j) : Definite (.arr items)
  | obj {entries : List (String × Json)} (h : ∀ e ∈ entries, Definite e.2) :
      Definite (.obj entries)

/-! ### Text between quotes -/

/-- How a character of a string is read: a control character without an escape of its own is read
as a unit. -/
def piece (c : Char) : Node.Piece :=
  if c.toNat < 0x20 ∧ c ∉ ['\n', '\r', '\t', '\x08', '\x0c'] then .unit c.toNat else .char c

/-- A written character is read as it was. -/
lemma pieces?_escape (c : Char) (cs : List Char) :
    Node.pieces? (escape c ++ cs)
      = (Node.pieces? cs).map fun (ps, rest) => (piece c :: ps, rest) := by
  rw [escape]
  split_ifs with hquote hslash hn hr ht hb hf hcontrol
  · subst hquote
    rfl
  · subst hslash
    rfl
  · subst hn
    rfl
  · subst hr
    rfl
  · subst ht
    rfl
  · subst hb
    rfl
  · subst hf
    rfl
  · have hpiece : piece c = .unit c.toNat := if_pos ⟨hcontrol, by simp [hn, hr, ht, hb, hf]⟩
    have hdigits : Text.Hex.nat? (Text.Hex.lower 4 c.toNat) = some c.toNat :=
      Text.Hex.nat?_lower (by decide) (by omega)
    rw [hpiece]
    change Node.pieces? ('\\' :: 'u' :: _ :: _ :: _ :: _ :: cs) = _
    rw [Node.pieces?]
    exact congrArg (Option.bind · _) hdigits
  · have hpiece : piece c = .char c := if_neg fun h => hcontrol h.1
    rw [hpiece]
    simp [Node.pieces?, hslash, hcontrol]

/-- A written string is read up to its closing quote. -/
lemma pieces?_flatMap_escape (cs r : List Char) :
    Node.pieces? (cs.flatMap escape ++ '"' :: r) = some (cs.map piece, r) := by
  induction cs with
  | nil => rfl
  | cons c cs ih =>
      rw [List.flatMap_cons, List.append_assoc, pieces?_escape, ih]
      rfl

/-- What is read of a string are its characters. -/
lemma join?_map_piece (cs : List Char) : Node.join? (cs.map piece) = some cs := by
  induction cs with
  | nil => rfl
  | cons c cs ih =>
      rw [List.map_cons, piece]
      split_ifs with hcontrol
      · have hsmall : (c.toNat < 0xd800 || 0xe000 ≤ c.toNat : Bool) = true := by
          simp only [Bool.or_eq_true, decide_eq_true_eq]
          omega
        rw [Node.join?.eq_def]
        dsimp only
        rw [if_pos hsmall, ih, Char.ofNat_toNat]
        rfl
      · rw [Node.join?, ih]
        rfl

/-- A string is told by its text between quotes, whatever follows. -/
lemma eq_of_quote_append {s s' : String} {r r' : List Char} (h : quote s ++ r = quote s' ++ r') :
    s = s' ∧ r = r' := by
  rw [quote, quote, List.cons_append, List.cons_append, List.cons.injEq, List.append_assoc,
    List.append_assoc, List.singleton_append, List.singleton_append] at h
  have hpieces := congrArg Node.pieces? h.2
  rw [pieces?_flatMap_escape, pieces?_flatMap_escape, Option.some_inj, Prod.mk.injEq] at hpieces
  have hjoin := congrArg Node.join? hpieces.1
  rw [join?_map_piece, join?_map_piece, Option.some_inj] at hjoin
  exact ⟨String.toList_injective hjoin, hpieces.2⟩

/-! ### The first character -/

/-- The characters with which the text of a document can begin. -/
def Opens : Json → Char → Prop
  | .null, c => c = 'n'
  | .bool b, c => c = if b then 't' else 'f'
  | .int _, c => c = '-' ∨ c.isDigit = true
  | .single x, c => if x.isFinite then c = '-' ∨ c.isDigit = true else c = 'n'
  | .double _, _ => False
  | .str _, c => c = '"'
  | .arr _, c => c = '['
  | .obj _, c => c = '\x7b'

/-- The text of a document begins with one of its characters. -/
lemma head_compact {j : Json} (h : j.Plain) : ∃ c cs, j.compact = c :: cs ∧ j.Opens c := by
  cases h with
  | null => exact ⟨_, _, rfl, rfl⟩
  | bool b => cases b <;> exact ⟨_, _, rfl, rfl⟩
  | int n => exact head_integer n
  | single x =>
      change ∃ c cs, (if x.isFinite then x.text else ['n', 'u', 'l', 'l']) = c :: cs ∧ _
      by_cases hx : x.isFinite = true
      · obtain ⟨c, cs, htext, hc⟩ := Binary32.head_text x
        refine ⟨c, cs, ?_, ?_⟩
        · rw [if_pos hx, htext]
        · rw [Opens, if_pos hx]
          exact hc
      · refine ⟨_, _, if_neg hx, ?_⟩
        rw [Opens, if_neg hx]
  | str s => exact ⟨_, _, rfl, rfl⟩
  | arr => exact ⟨_, _, rfl, rfl⟩
  | obj => exact ⟨_, _, rfl, rfl⟩

/-! ### Arrays and objects -/

/-- The marks after a part of an array or object. -/
def marks : List Char := [',', ']', '\x7d']

lemma stops_of_mem_marks {c : Char} (h : c ∈ marks) (r : List Char) : Stops (c :: r) := by
  simp only [marks, List.mem_cons, List.not_mem_nil, or_false] at h
  rcases h with rfl | rfl | rfl <;> exact stops_cons rfl

/-- The text of a document does not begin with such a mark. -/
lemma compact_append_ne {j : Json} (h : j.Plain) {c : Char} (hc : c ∈ marks) (r r' : List Char) :
    j.compact ++ r ≠ c :: r' := by
  obtain ⟨d, ds, htext, hd⟩ := head_compact h
  rw [htext]
  intro heq
  obtain rfl := (List.cons.inj heq).1
  simp only [marks, List.mem_cons, List.not_mem_nil, or_false] at hc
  cases h with
  | bool b => cases b <;> rcases hc with rfl | rfl | rfl <;> cases hd
  | int n => rcases hc with rfl | rfl | rfl <;> simp [Opens] at hd
  | single x =>
      rw [Opens] at hd
      split_ifs at hd <;> rcases hc with rfl | rfl | rfl <;> simp at hd
  | null | str | arr | obj => rcases hc with rfl | rfl | rfl <;> cases hd

section Parted

variable {α : Type} {f : α → List Char}

/-- Texts parted by commas. -/
def parted (f : α → List Char) : List α → List Char
  | [] => []
  | [x] => f x
  | x :: xs => f x ++ ',' :: parted f xs

/-- A part and what follows it. -/
lemma parted_cons (close : Char) (x : α) (xs : List α) (r : List Char) :
    parted f (x :: xs) ++ close :: r
      = f x ++ if xs = [] then close :: r else ',' :: (parted f xs ++ close :: r) := by
  cases xs with
  | nil => rfl
  | cons y ys => simp [parted]

/-- Parts are told by the text up to the closing mark when each of them is told by its own. -/
lemma eq_of_parted {close : Char} (hclose : close ∈ marks) (hcomma : close ≠ ',') {xs xs' : List α}
    {r r' : List Char} (hxs : ∀ x ∈ xs, ∀ r r', f x ++ r ≠ close :: r')
    (hxs' : ∀ x ∈ xs', ∀ r r', f x ++ r ≠ close :: r')
    (htold : ∀ x ∈ xs, ∀ x' ∈ xs', ∀ r r', Stops r → Stops r' → f x ++ r = f x' ++ r' →
      x = x' ∧ r = r')
    (h : parted f xs ++ close :: r = parted f xs' ++ close :: r') : xs = xs' ∧ r = r' := by
  induction xs generalizing xs' with
  | nil =>
      cases xs' with
      | nil => exact ⟨rfl, (List.cons.inj h).2⟩
      | cons x' xs' =>
          rw [parted_cons] at h
          exact absurd h.symm (hxs' x' List.mem_cons_self _ _)
  | cons x xs ih =>
      cases xs' with
      | nil =>
          rw [parted_cons] at h
          exact absurd h (hxs x List.mem_cons_self _ _)
      | cons x' xs' =>
          have hstops (ys : List α) (r : List Char) :
              Stops (if ys = [] then close :: r else ',' :: (parted f ys ++ close :: r)) := by
            split_ifs
            · exact stops_of_mem_marks hclose r
            · exact stops_of_mem_marks (by decide) _
          rw [parted_cons, parted_cons] at h
          obtain ⟨rfl, hrest⟩ := htold x List.mem_cons_self x' List.mem_cons_self _ _
            (hstops xs r) (hstops xs' r') h
          split_ifs at hrest with hnil hnil' hnil'
          · exact ⟨by rw [hnil, hnil'], (List.cons.inj hrest).2⟩
          · exact absurd (List.cons.inj hrest).1 hcomma
          · exact absurd (List.cons.inj hrest).1.symm hcomma
          · obtain ⟨rfl, rfl⟩ := ih (fun y hy => hxs y (List.mem_cons_of_mem _ hy))
              (fun y hy => hxs' y (List.mem_cons_of_mem _ hy))
              (fun y hy y' hy' =>
                htold y (List.mem_cons_of_mem _ hy) y' (List.mem_cons_of_mem _ hy'))
              (List.cons.inj hrest).2
            exact ⟨rfl, rfl⟩

end Parted

/-- An entry of an object. -/
def entryText (e : String × Json) : List Char :=
  quote e.1 ++ ':' :: e.2.compact

lemma entryText_append_ne (e : String × Json) (r r' : List Char) :
    entryText e ++ r ≠ '\x7d' :: r' := by
  rw [entryText, quote]
  intro h
  cases (List.cons.inj h).1

lemma compactItems_eq : ∀ items : List Json, compactItems items = parted compact items
  | [] => rfl
  | [_] => rfl
  | _ :: k :: js => by simp [compactItems, parted, compactItems_eq (k :: js)]

lemma compactEntries_eq : ∀ entries : List (String × Json),
    compactEntries entries = parted entryText entries
  | [] => rfl
  | [(_, _)] => rfl
  | (_, _) :: e :: es => by
      simp [compactEntries, parted, compactEntries_eq (e :: es), entryText]

lemma compact_arr (items : List Json) (r : List Char) :
    (arr items).compact ++ r = '[' :: (parted compact items ++ ']' :: r) := by
  rw [compact, compactItems_eq]
  simp

lemma compact_obj (entries : List (String × Json)) (r : List Char) :
    (obj entries).compact ++ r = '\x7b' :: (parted entryText entries ++ '\x7d' :: r) := by
  rw [compact, compactEntries_eq]
  simp

/-! ### Documents and their texts -/

lemma Definite.plain {j : Json} (h : j.Definite) : j.Plain := by
  induction h with
  | bool b => exact .bool b
  | int n => exact .int n
  | single => exact .single _
  | str s => exact .str s
  | arr _ ih => exact .arr ih
  | obj _ ih => exact .obj ih

/-- Documents of different kinds begin differently. -/
lemma exists_opens {j j' : Json} {r r' : List Char} (hj : j.Plain) (hj' : j'.Plain)
    (h : j.compact ++ r = j'.compact ++ r') : ∃ c, j.Opens c ∧ j'.Opens c := by
  obtain ⟨c, cs, htext, hc⟩ := head_compact hj
  obtain ⟨c', cs', htext', hc'⟩ := head_compact hj'
  rw [htext, htext'] at h
  obtain rfl := (List.cons.inj h).1
  exact ⟨c, hc, hc'⟩

section Openings

variable {j : Json}

lemma eq_bool_of_opens {b : Bool} (h : j.Opens (if b then 't' else 'f')) : j = .bool b := by
  cases j with
  | bool b' => cases b <;> cases b' <;> first | rfl | cases h
  | int => cases b <;> simp [Opens] at h
  | single x =>
      rw [Opens] at h
      cases b <;> split_ifs at h <;> simp at h
  | null | str | arr | obj => cases b <;> cases h
  | double => exact h.elim

lemma eq_str_of_opens (h : j.Opens '"') : ∃ s, j = .str s := by
  cases j with
  | str s => exact ⟨s, rfl⟩
  | bool b => cases b <;> cases h
  | int => simp [Opens] at h
  | single x =>
      rw [Opens] at h
      split_ifs at h <;> simp at h
  | null | arr | obj => cases h
  | double => exact h.elim

lemma eq_arr_of_opens (h : j.Opens '[') : ∃ items, j = .arr items := by
  cases j with
  | arr items => exact ⟨items, rfl⟩
  | bool b => cases b <;> cases h
  | int => simp [Opens] at h
  | single x =>
      rw [Opens] at h
      split_ifs at h <;> simp at h
  | null | str | obj => cases h
  | double => exact h.elim

lemma eq_obj_of_opens (h : j.Opens '\x7b') : ∃ entries, j = .obj entries := by
  cases j with
  | obj entries => exact ⟨entries, rfl⟩
  | bool b => cases b <;> cases h
  | int => simp [Opens] at h
  | single x =>
      rw [Opens] at h
      split_ifs at h <;> simp at h
  | null | str | arr => cases h
  | double => exact h.elim

end Openings

/-! ### Numbers -/

/-- The numeral of a document that is a number. -/
def numeral? : Json → Option (List Char)
  | .int n => some (integer n)
  | .single x => if x.isFinite then some x.text else none
  | _ => none

lemma compact_of_numeral? {j : Json} {cs : List Char} (h : j.numeral? = some cs) :
    j.compact = cs ∧ ∀ c ∈ cs, isNumeric c = true := by
  cases j with
  | int n =>
      cases h
      exact ⟨rfl, numeric_integer n⟩
  | single x =>
      rw [numeral?] at h
      split_ifs at h with hx
      cases h
      exact ⟨if_pos hx, Binary32.numeric_text x⟩
  | null | bool | double | str | arr | obj => cases h

/-- A document that begins as a number is one. -/
lemma exists_numeral? {j : Json} {c : Char} (h : j.Opens c) (hc : c = '-' ∨ c.isDigit = true) :
    ∃ cs, j.numeral? = some cs := by
  cases j with
  | int n => exact ⟨_, rfl⟩
  | single x =>
      rw [Opens] at h
      split_ifs at h with hx
      · exact ⟨_, if_pos hx⟩
      · subst h
        simp at hc
  | bool b => cases b <;> cases h <;> simp at hc
  | null | str | arr | obj =>
      cases h
      simp at hc
  | double => exact h.elim

/-- A number is told by its numeral. -/
lemma eq_of_numeral? {j j' : Json} {cs : List Char} (h : j.numeral? = some cs)
    (h' : j'.numeral? = some cs) : j = j' := by
  cases j with
  | int n =>
      cases h
      cases j' with
      | int n' => rw [integer_injective (Option.some_inj.mp h')]
      | single x' =>
          rw [numeral?] at h'
          split_ifs at h' with hx'
          exact absurd (Option.some_inj.mp h') (Binary32.text_ne_integer x' n)
      | null | bool | double | str | arr | obj => cases h'
  | single x =>
      rw [numeral?] at h
      split_ifs at h with hx
      cases h
      cases j' with
      | int n' => exact absurd (Option.some_inj.mp h').symm (Binary32.text_ne_integer x n')
      | single x' =>
          rw [numeral?] at h'
          split_ifs at h' with hx'
          rw [Binary32.text_injective hx' hx (Option.some_inj.mp h')]
      | null | bool | double | str | arr | obj => cases h'
  | null | bool | double | str | arr | obj => cases h

/-- A number is told by its text, whatever follows. -/
lemma eq_of_numeral_append {j j' : Json} {cs r r' : List Char} {c : Char}
    (hcs : j.numeral? = some cs) (hc : c = '-' ∨ c.isDigit = true) (hopens : j'.Opens c)
    (hr : Stops r) (hr' : Stops r') (h : j.compact ++ r = j'.compact ++ r') :
    j = j' ∧ r = r' := by
  obtain ⟨cs', hcs'⟩ := exists_numeral? hopens hc
  obtain ⟨htext, hnumeric⟩ := compact_of_numeral? hcs
  obtain ⟨htext', hnumeric'⟩ := compact_of_numeral? hcs'
  rw [htext, htext'] at h
  obtain ⟨rfl, hrest⟩ := eq_of_numeric_append hnumeric hnumeric' hr hr' h
  exact ⟨eq_of_numeral? hcs hcs', hrest⟩

/-! ### All documents -/

/-- **A definite document is told by its text.** -/
theorem eq_of_compact_append {j j' : Json} {r r' : List Char} (hj : j.Definite) (hj' : j'.Plain)
    (hr : Stops r) (hr' : Stops r') (h : j.compact ++ r = j'.compact ++ r') :
    j = j' ∧ r = r' := by
  induction hj generalizing j' r r' with
  | bool b =>
      obtain ⟨c, rfl, hc'⟩ := exists_opens (.bool b) hj' h
      obtain rfl := eq_bool_of_opens hc'
      exact ⟨rfl, List.append_cancel_left h⟩
  | int n =>
      obtain ⟨c, hc, hc'⟩ := exists_opens (.int n) hj' h
      exact eq_of_numeral_append rfl hc hc' hr hr' h
  | @single x hx =>
      obtain ⟨c, hc, hc'⟩ := exists_opens (.single x) hj' h
      rw [Opens, if_pos hx] at hc
      exact eq_of_numeral_append (if_pos hx) hc hc' hr hr' h
  | str s =>
      obtain ⟨c, rfl, hc'⟩ := exists_opens (.str s) hj' h
      obtain ⟨s', rfl⟩ := eq_str_of_opens hc'
      obtain ⟨rfl, hrest⟩ := eq_of_quote_append h
      exact ⟨rfl, hrest⟩
  | @arr items hitems ih =>
      have hplain : ∀ j ∈ items, j.Plain := fun j hmem => (hitems j hmem).plain
      obtain ⟨c, rfl, hc'⟩ := exists_opens (.arr hplain) hj' h
      obtain ⟨items', rfl⟩ := eq_arr_of_opens hc'
      cases hj' with
      | arr hplain' =>
          rw [compact_arr, compact_arr] at h
          obtain ⟨rfl, hrest⟩ := eq_of_parted (by decide) (by decide)
            (fun j hmem => compact_append_ne (hplain j hmem) (by decide))
            (fun j hmem => compact_append_ne (hplain' j hmem) (by decide))
            (fun j hmem j' hmem' _ _ hr hr' h => ih j hmem (hplain' j' hmem') hr hr' h)
            (List.cons.inj h).2
          exact ⟨rfl, hrest⟩
  | @obj entries hentries ih =>
      have hplain : ∀ e ∈ entries, e.2.Plain := fun e hmem => (hentries e hmem).plain
      obtain ⟨c, rfl, hc'⟩ := exists_opens (.obj hplain) hj' h
      obtain ⟨entries', rfl⟩ := eq_obj_of_opens hc'
      cases hj' with
      | obj hplain' =>
          rw [compact_obj, compact_obj] at h
          have htold : ∀ e ∈ entries, ∀ e' ∈ entries', ∀ r r', Stops r → Stops r' →
              entryText e ++ r = entryText e' ++ r' → e = e' ∧ r = r' := by
            intro e hmem e' hmem' r r' hr hr' h
            simp only [entryText, List.append_assoc, List.cons_append] at h
            obtain ⟨hkey, hvalue⟩ := eq_of_quote_append h
            obtain ⟨hjson, hrest⟩ := ih e hmem (hplain' e' hmem') hr hr' (List.cons.inj hvalue).2
            exact ⟨Prod.ext hkey hjson, hrest⟩
          obtain ⟨rfl, hrest⟩ := eq_of_parted (by decide) (by decide)
            (fun e _ => entryText_append_ne e) (fun e _ => entryText_append_ne e) htold
            (List.cons.inj h).2
          exact ⟨rfl, hrest⟩

/-! ### The character zero -/

lemma zero_notMem_escape (c : Char) : '\x00' ∉ escape c := by
  rw [escape]
  split_ifs with hquote hslash hn hr ht hb hf hcontrol
  · decide
  · decide
  · decide
  · decide
  · decide
  · decide
  · decide
  · rw [List.mem_cons, List.mem_cons, not_or, not_or]
    exact ⟨by decide, by decide, Text.Hex.notMem_lower (by decide) 4 _⟩
  · rw [List.mem_singleton]
    rintro rfl
    exact hcontrol (by decide)

lemma zero_notMem_quote (s : String) : '\x00' ∉ quote s := by
  rw [quote, List.mem_cons, List.mem_append, List.mem_flatMap, not_or, not_or]
  refine ⟨by decide, ?_, by decide⟩
  rintro ⟨c, -, hc⟩
  exact zero_notMem_escape c hc

lemma zero_notMem_parted {α : Type} {f : α → List Char} {xs : List α}
    (h : ∀ x ∈ xs, '\x00' ∉ f x) : '\x00' ∉ parted f xs := by
  induction xs with
  | nil => exact List.not_mem_nil
  | cons x xs ih =>
      have hx := h x List.mem_cons_self
      have hxs := ih fun y hy => h y (List.mem_cons_of_mem _ hy)
      cases xs with
      | nil => exact hx
      | cons y ys =>
          rw [parted, List.mem_append, List.mem_cons, not_or, not_or]
          · exact ⟨hx, by decide, hxs⟩
          · exact List.cons_ne_nil y ys

/-- No text of a document has the character zero. -/
lemma zero_notMem_compact {j : Json} (h : j.Plain) : '\x00' ∉ j.compact := by
  have hnumeric {cs : List Char} (hcs : ∀ c ∈ cs, isNumeric c = true) : '\x00' ∉ cs :=
    fun hmem => by cases hcs _ hmem
  induction h with
  | null => decide
  | bool b => cases b <;> decide
  | int n => exact hnumeric (numeric_integer n)
  | single x =>
      change '\x00' ∉ if x.isFinite then x.text else ['n', 'u', 'l', 'l']
      split_ifs with hx
      · exact hnumeric (Binary32.numeric_text x)
      · decide
  | str s => exact zero_notMem_quote s
  | arr _ ih =>
      have hparts := zero_notMem_parted ih
      rw [← List.append_nil (arr _).compact, compact_arr]
      simpa using hparts
  | obj _ ih =>
      have hparts : '\x00' ∉ parted entryText _ := zero_notMem_parted fun e he => by
        rw [entryText, List.mem_append, List.mem_cons, not_or, not_or]
        exact ⟨zero_notMem_quote e.1, by decide, ih e he⟩
      rw [← List.append_nil (obj _).compact, compact_obj]
      simpa using hparts

end DiceHost.Json
