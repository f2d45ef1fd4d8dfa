import GLBindings.Proofs.Symbol.Cut
import Mathlib.Data.List.Basic

namespace GLBindings.Symbol

open Text

def lettersBefore (cs : List Char) (i : Nat) : Nat := ((cs.take i).filter (· ≠ '_')).length

/-- The letter at position `i` of the symbol is in word number `n`: the words in front of it hold at most
the letters in front of `i`, and together with it they hold more. -/
def InWord (cs : List Char) (ws : List (List Char)) (i n : Nat) : Prop :=
  (ws.take n).flatten.length ≤ lettersBefore cs i ∧
    lettersBefore cs i < (ws.take (n + 1)).flatten.length

def SameWord (cs : List Char) (ws : List (List Char)) (i j : Nat) : Prop :=
  ∃ n, InWord cs ws i n ∧ InWord cs ws j n

def IsLetterAt (cs : List Char) (i : Nat) (c : Char) : Prop := cs[i]? = some c ∧ c ≠ '_'

/-- The words read the symbol exactly. -/
structure Exact (cs : List Char) (ws : List (List Char)) : Prop where
  ne_nil : ∀ w ∈ ws, w ≠ []
  not_mem : ∀ w ∈ ws, '_' ∉ w
  flatten_eq : ws.flatten = cs.filter (· ≠ '_')
  located : ∀ i a, IsLetterAt cs i a → ∃! n, InWord cs ws i n
  separated : ∀ i j k a b, IsLetterAt cs i a → IsLetterAt cs j b → i < k → k < j →
    cs[k]? = some '_' → ¬ SameWord cs ws i j
  adjacent : ∀ i a b, IsLetterAt cs i a → IsLetterAt cs (i + 1) b →
    (¬ SameWord cs ws i (i + 1) ↔
      isLower a ∧ isUpper b ∨ isUpper a ∧ isUpper b ∧ ∃ c, cs[i + 2]? = some c ∧ isLower c)

def wordAt : List (List Char) → Nat → Nat
  | [], _ => 0
  | w :: ws, k => if k < w.length then 0 else wordAt ws (k - w.length) + 1

theorem wordAt_iff {ws : List (List Char)} {k n : Nat} (hk : k < ws.flatten.length) :
    (ws.take n).flatten.length ≤ k ∧ k < (ws.take (n + 1)).flatten.length ↔ n = wordAt ws k := by
  induction ws generalizing k n with
  | nil => simp at hk
  | cons w ws ih =>
      rw [List.flatten_cons, List.length_append] at hk
      by_cases hw : k < w.length
      · cases n with
        | zero => simp [wordAt, hw]
        | succ n =>
            simp [wordAt, hw]
            omega
      · cases n with
        | zero => simp [wordAt, hw]
        | succ n =>
            have hrest := ih (k := k - w.length) (n := n) (by omega)
            simp only [wordAt, hw, if_false, List.take_succ_cons, List.flatten_cons,
              List.length_append, Nat.add_right_cancel_iff]
            rw [← hrest]
            omega

def number (cs : List Char) (i : Nat) : Nat := wordAt (cut cs) (lettersBefore cs i)

theorem lettersBefore_cons (c : Char) (cs : List Char) (i : Nat) :
    lettersBefore (c :: cs) (i + 1) = lettersBefore cs i + if c = '_' then 0 else 1 := by
  by_cases hc : c = '_' <;> simp [lettersBefore, hc]

theorem lettersBefore_lt {cs : List Char} {i : Nat} {a : Char} (h : IsLetterAt cs i a) :
    lettersBefore cs i < (cs.filter (· ≠ '_')).length := by
  obtain ⟨ha, hne⟩ := h
  induction cs generalizing i with
  | nil => simp at ha
  | cons c cs ih =>
      cases i with
      | zero =>
          obtain rfl : c = a := by simpa using ha
          simp [lettersBefore, hne]
      | succ i =>
          have hlt := ih (i := i) (by simpa using ha)
          rw [lettersBefore_cons]
          by_cases hc : c = '_'
          · rw [List.filter_cons_of_neg (by simpa using hc), if_pos hc]
            exact hlt
          · rw [List.filter_cons_of_pos (by simpa using hc), if_neg hc]
            exact Nat.succ_lt_succ hlt

theorem flatten_attach (w : List Char) (ws : List (List Char)) :
    (attach w ws).flatten = w ++ ws.flatten := by
  cases ws <;> simp [attach]

theorem flatten_cut (cs : List Char) : (cut cs).flatten = cs.filter (· ≠ '_') := by
  induction cs with
  | nil => rfl
  | cons c cs ih =>
      by_cases hc : c = '_'
      · simp [hc, ih]
      cases hends : endsBefore c cs with
      | true => simp [cut_of_ends hc hends, hc, ih]
      | false => simp [cut_of_not_ends hc hends, flatten_attach, hc, ih]

theorem ne_nil_of_mem_cut {cs w : List Char} (h : w ∈ cut cs) : w ≠ [] := by
  induction cs generalizing w with
  | nil => simp [cut] at h
  | cons c cs ih =>
      by_cases hc : c = '_'
      · rw [hc, cut_underscore] at h
        exact ih h
      cases hends : endsBefore c cs with
      | true =>
          rw [cut_of_ends hc hends] at h
          rcases List.mem_cons.mp h with rfl | h
          · simp
          · exact ih h
      | false =>
          rw [cut_of_not_ends hc hends] at h
          cases hcut : cut cs with
          | nil => simp_all [attach]
          | cons v vs =>
              rw [hcut, attach] at h
              rcases List.mem_cons.mp h with rfl | h
              · simp
              · exact ih (by simp [hcut, h])

theorem mem_of_mem_cut {cs w : List Char} (hw : w ∈ cut cs) {c : Char} (hc : c ∈ w) :
    c ∈ cs ∧ c ≠ '_' := by
  have hflat : c ∈ (cut cs).flatten := List.mem_flatten.mpr ⟨w, hw, hc⟩
  rw [flatten_cut] at hflat
  simpa using hflat

theorem exists_letter_of_not_endsBefore {c : Char} {cs : List Char} (h : endsBefore c cs = false) :
    ∃ d rest, cs = d :: rest ∧ d ≠ '_' := by
  cases cs with
  | nil => cases h
  | cons d rest =>
      refine ⟨d, rest, rfl, ?_⟩
      rintro rfl
      simp [endsBefore] at h

theorem number_underscore (cs : List Char) (i : Nat) : number ('_' :: cs) (i + 1) = number cs i := by
  simp [number, lettersBefore_cons]

theorem number_zero {c : Char} (hc : c ≠ '_') (cs : List Char) : number (c :: cs) 0 = 0 := by
  obtain ⟨w, ws, hcut⟩ := List.exists_cons_of_ne_nil (cut_ne_nil hc cs)
  have hw : w ≠ [] := ne_nil_of_mem_cut (by rw [hcut]; exact List.mem_cons_self)
  simp [number, hcut, wordAt, lettersBefore, List.length_pos_iff, hw]

/-- One more letter in front leaves the numbers as they are, unless a word ends behind it. -/
theorem number_cons {c : Char} (hc : c ≠ '_') (cs : List Char) (i : Nat) :
    number (c :: cs) (i + 1) = number cs i + if endsBefore c cs then 1 else 0 := by
  cases hends : endsBefore c cs with
  | true => simp [number, cut_of_ends hc hends, lettersBefore_cons, hc, wordAt]
  | false =>
      rw [number, number, cut_of_not_ends hc hends, lettersBefore_cons, if_neg hc]
      obtain ⟨d, rest, rfl, hd⟩ := exists_letter_of_not_endsBefore hends
      obtain ⟨v, vs, hcut⟩ := List.exists_cons_of_ne_nil (cut_ne_nil hd rest)
      simp [hcut, attach, wordAt]

theorem number_succ {cs rest : List Char} {i : Nat} {a b : Char} (h : cs.drop i = a :: b :: rest)
    (ha : a ≠ '_') (hb : b ≠ '_') :
    number cs (i + 1) = number cs i + if endsBefore a (b :: rest) then 1 else 0 := by
  induction i generalizing cs with
  | zero =>
      obtain rfl : cs = a :: b :: rest := by simpa using h
      rw [number_cons ha, number_zero hb, number_zero ha]
  | succ i ih =>
      cases cs with
      | nil => simp at h
      | cons c cs =>
          have hdrop : cs.drop i = a :: b :: rest := by simpa using h
          have hnext := ih hdrop
          by_cases hc : c = '_'
          · rw [hc, number_underscore, number_underscore, hnext]
          · rw [number_cons hc, number_cons hc, hnext]
            omega

theorem number_lt {cs : List Char} {i j k : Nat} {a : Char} (ha : IsLetterAt cs i a) (hik : i < k)
    (hkj : k < j) (hk : cs[k]? = some '_') : number cs i < number cs j := by
  induction cs generalizing i j k a with
  | nil => simp at hk
  | cons c cs ih =>
      obtain ⟨k, rfl⟩ := Nat.exists_eq_succ_of_ne_zero (Nat.ne_zero_of_lt hik)
      obtain ⟨j, rfl⟩ := Nat.exists_eq_succ_of_ne_zero (Nat.ne_zero_of_lt hkj)
      have hk : cs[k]? = some '_' := by simpa using hk
      cases i with
      | succ i =>
          have hlt := ih (i := i) (j := j) (by simpa [IsLetterAt] using ha) (by omega) (by omega) hk
          by_cases hc : c = '_'
          · rw [hc, number_underscore, number_underscore]
            exact hlt
          · rw [number_cons hc, number_cons hc]
            omega
      | zero =>
          obtain ⟨hca, hne⟩ := ha
          obtain rfl : c = a := by simpa using hca
          rw [number_zero hne, number_cons hne]
          cases hends : endsBefore c cs with
          | true => simp
          | false =>
              -- The next character is a letter of the same word, in front of the underscore.
              obtain ⟨d, rest, rfl, hd⟩ := exists_letter_of_not_endsBefore hends
              have hpos : 0 < k := by
                rcases Nat.eq_zero_or_pos k with rfl | hpos
                · exact absurd (by simpa using hk) hd
                · exact hpos
              have hlt := ih (i := 0) (j := j) ⟨by simp, hd⟩ hpos (by omega) hk
              rw [number_zero hd] at hlt
              simpa using hlt

theorem endsBefore_iff {a b : Char} {rest : List Char} (hb : b ≠ '_') :
    endsBefore a (b :: rest) = true ↔
      isLower a ∧ isUpper b ∨ isUpper a ∧ isUpper b ∧ ∃ c, rest.head? = some c ∧ isLower c := by
  simp [endsBefore, hb, Option.any_eq_true, and_assoc]

theorem inWord_iff {cs : List Char} {i : Nat} {a : Char} (h : IsLetterAt cs i a) {n : Nat} :
    InWord cs (words cs) i n ↔ n = number cs i := by
  have hlt := lettersBefore_lt h
  rw [← flatten_cut] at hlt
  rw [InWord, words_eq_cut, wordAt_iff hlt, number]

theorem sameWord_iff {cs : List Char} {i j : Nat} {a b : Char} (ha : IsLetterAt cs i a)
    (hb : IsLetterAt cs j b) : SameWord cs (words cs) i j ↔ number cs i = number cs j := by
  simp [SameWord, inWord_iff ha, inWord_iff hb]

theorem words_exact (cs : List Char) : Exact cs (words cs) where
  ne_nil w hw := by
    rw [words_eq_cut] at hw
    exact ne_nil_of_mem_cut hw
  not_mem w hw hmem := by
    have hflat : '_' ∈ (cut cs).flatten := List.mem_flatten.mpr ⟨w, words_eq_cut cs ▸ hw, hmem⟩
    rw [flatten_cut] at hflat
    simp at hflat
  flatten_eq := by rw [words_eq_cut, flatten_cut]
  located i a ha := by
    refine ⟨number cs i, (inWord_iff ha).mpr rfl, fun n hn => (inWord_iff ha).mp hn⟩
  separated i j k a b ha hb hik hkj hk := by
    rw [sameWord_iff ha hb]
    exact Nat.ne_of_lt (number_lt ha hik hkj hk)
  adjacent i a b ha hb := by
    have hdrop : cs.drop i = a :: b :: cs.drop (i + 2) := by
      obtain ⟨hi, hca⟩ := List.getElem?_eq_some_iff.mp ha.1
      obtain ⟨hi', hcb⟩ := List.getElem?_eq_some_iff.mp hb.1
      rw [List.drop_eq_getElem_cons hi, List.drop_eq_getElem_cons hi', hca, hcb]
    rw [sameWord_iff ha hb, number_succ hdrop ha.2 hb.2]
    rw [← List.head?_drop, ← endsBefore_iff hb.2]
    split <;> simp_all

example : (words "ARBCopyTexture2DArray__R8".toList).map String.ofList =
    ["ARB", "Copy", "Texture2D", "Array", "R8"] := by decide +kernel

end GLBindings.Symbol
