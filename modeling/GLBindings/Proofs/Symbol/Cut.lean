import GLBindings.Proofs.Letter
import GLBindings.Symbol

namespace GLBindings.Symbol

open Text

def endsBefore (a : Char) : List Char → Bool
  | [] => true
  | b :: rest => b = '_' || isLower a && isUpper b || isUpper a && isUpper b && rest.head?.any isLower

def attach (w : List Char) : List (List Char) → List (List Char)
  | [] => [w]
  | v :: vs => (w ++ v) :: vs

def cut : List Char → List (List Char)
  | [] => []
  | c :: cs =>
    if c = '_' then cut cs
    else if endsBefore c cs then [c] :: cut cs
    else attach [c] (cut cs)

theorem attach_attach (u v : List Char) (ws : List (List Char)) :
    attach u (attach v ws) = attach (u ++ v) ws := by
  cases ws <;> simp [attach]

theorem attach_nil {ws : List (List Char)} (h : ws ≠ []) : attach [] ws = ws := by
  cases ws with
  | nil => exact absurd rfl h
  | cons w ws => rfl

@[simp] theorem cut_underscore (cs : List Char) : cut ('_' :: cs) = cut cs := by
  simp [cut]

theorem cut_of_ends {c : Char} {cs : List Char} (hc : c ≠ '_') (h : endsBefore c cs = true) :
    cut (c :: cs) = [c] :: cut cs := by
  simp [cut, hc, h]

theorem cut_of_not_ends {c : Char} {cs : List Char} (hc : c ≠ '_') (h : endsBefore c cs = false) :
    cut (c :: cs) = attach [c] (cut cs) := by
  simp [cut, hc, h]

theorem cut_ne_nil {c : Char} (hc : c ≠ '_') (cs : List Char) : cut (c :: cs) ≠ [] := by
  cases h : endsBefore c cs with
  | true => simp [cut_of_ends hc h]
  | false =>
      rw [cut_of_not_ends hc h]
      cases cut cs <;> simp [attach]

theorem head_of_endsBefore {b : Char} {cs : List Char} (h : endsBefore b cs = true) :
    cs.head?.any isLower = false := by
  rw [Bool.eq_false_iff]
  intro hlower
  cases cs with
  | nil => simp at hlower
  | cons c cs =>
      have hc : isLower c = true := by simpa using hlower
      have hne : c ≠ '_' := by
        rintro rfl
        simp [isLower_underscore] at hc
      simp [endsBefore, hne, isUpper_eq_false_of_isLower hc] at h

namespace Scan

/-- What a step does. The open word has its latest letter in front. -/
inductive Step (s : Scan) : Char → Scan → Prop
  | underscore : Step s '_' s.close
  | capital {b c : Char} {rest : List Char} (hword : s.word = b :: rest) (hb : isLower b = true)
      (hc : isUpper c = true) (hne : c ≠ '_') : Step s c (s.close.push c)
  | acronym {a b c : Char} {rest : List Char} (hword : s.word = b :: a :: rest)
      (ha : isUpper a = true) (hb : isUpper b = true) (hc : isLower c = true) (hne : c ≠ '_') :
      Step s c ⟨(a :: rest).reverse :: s.done, [c, b]⟩
  | letter {c : Char} (hcapital : ∀ b rest, s.word = b :: rest → ¬ (isLower b ∧ isUpper c))
      (hacronym : ∀ b a rest, s.word = b :: a :: rest → ¬ (isUpper a ∧ isUpper b ∧ isLower c))
      (hne : c ≠ '_') : Step s c (s.push c)

theorem step_spec (s : Scan) (c : Char) : Step s c (s.step c) := by
  by_cases hne : c = '_'
  · have hstep : s.step c = s.close := by simp [step, hne]
    exact hstep ▸ hne ▸ .underscore
  by_cases hcapital : ∃ b rest, s.word = b :: rest ∧ isLower b = true ∧ isUpper c = true
  · obtain ⟨b, rest, hword, hb, hc⟩ := hcapital
    have hstep : s.step c = s.close.push c := by simp [step, hne, hword, hb, hc]
    exact hstep ▸ .capital hword hb hc hne
  by_cases hacronym : ∃ b a rest, s.word = b :: a :: rest ∧ isUpper a = true ∧ isUpper b = true ∧
      isLower c = true
  · obtain ⟨b, a, rest, hword, ha, hb, hc⟩ := hacronym
    have hupper := isUpper_eq_false_of_isLower hc
    have hstep : s.step c = ⟨(a :: rest).reverse :: s.done, [c, b]⟩ := by
      simp [step, hne, hupper, hc, hword, ha, hb]
    exact hstep ▸ .acronym hword ha hb hc hne
  · have hstep : s.step c = s.push c := by
      unfold step
      rw [if_neg hne]
      split
      next hc =>
        rw [if_neg]
        intro hopens
        cases hword : s.word with
        | nil => simp [hword] at hopens
        | cons b rest => exact hcapital ⟨b, rest, hword, by simpa [hword] using hopens, hc⟩
      next =>
        split
        next hc =>
          split
          next b a rest hword =>
            rw [if_neg]
            intro hboth
            rw [Bool.and_eq_true] at hboth
            exact hacronym ⟨b, a, rest, hword, hboth.2, hboth.1, hc⟩
          next => rfl
        next => rfl
    refine hstep ▸ .letter ?_ ?_ hne
    · exact fun b rest hword h => hcapital ⟨b, rest, hword, h.1, h.2⟩
    · exact fun b a rest hword h => hacronym ⟨b, a, rest, hword, h.1, h.2.1, h.2.2⟩

/-- A capital is never right behind a small letter at the end of the open word. -/
structure Open (s : Scan) : Prop where
  not_mem : '_' ∉ s.word
  not_capital : ∀ b a rest, s.word = b :: a :: rest → ¬ (isLower a ∧ isUpper b)

theorem Open.ne_underscore {s : Scan} (h : s.Open) {b : Char} (hb : b ∈ s.word) : b ≠ '_' := by
  rintro rfl
  exact h.not_mem hb

theorem word_close (s : Scan) : s.close.word = [] := by
  unfold close
  split <;> simp_all

theorem open_close (s : Scan) : s.close.Open := by
  constructor <;> simp [word_close]

theorem Open.step {s t : Scan} (h : s.Open) {c : Char} (hstep : Step s c t) : t.Open := by
  cases hstep with
  | underscore => exact open_close s
  | capital hword hb hc hne => constructor <;> simp [push, word_close, Ne.symm hne]
  | acronym hword ha hb hc hne =>
      have hmem := h.not_mem
      constructor
      · simp_all [Ne.symm hne]
      · rintro b' _ _ hword' ⟨_, hb'⟩
        obtain ⟨rfl, _⟩ := List.cons.inj hword'
        simp [isUpper_eq_false_of_isLower hc] at hb'
  | letter hcapital hacronym hne =>
      constructor
      · simp [push, h.not_mem, Ne.symm hne]
      · rintro b a rest hword ⟨ha, hb⟩
        obtain ⟨rfl, hrest⟩ := List.cons.inj hword
        exact hcapital a rest hrest ⟨ha, hb⟩

/-- The words of the open word together with the characters to come. Only the latest letter of the open
word may still leave it. -/
def remaining (cs : List Char) : List Char → List (List Char)
  | [] => cut cs
  | [b] => cut (b :: cs)
  | b :: a :: rest => attach rest.reverse (cut (a :: b :: cs))

def result (s : Scan) (cs : List Char) : List (List Char) := s.done.reverse ++ remaining cs s.word

theorem endsBefore_word {s : Scan} (h : s.Open) {a b : Char} {rest : List Char}
    (hword : s.word = b :: a :: rest) (cs : List Char) :
    endsBefore a (b :: cs) = (isUpper a && isUpper b && cs.head?.any isLower) := by
  have hb : b ≠ '_' := h.ne_underscore (by simp [hword])
  have hcapital : (isLower a && isUpper b) = false := by
    simpa using h.not_capital b a rest hword
  simp [endsBefore, hb, hcapital]

theorem remaining_of_ends {s : Scan} (h : s.Open) {b : Char} {rest cs : List Char}
    (hword : s.word = b :: rest) (hends : endsBefore b cs = true) :
    remaining cs s.word = s.word.reverse :: cut cs := by
  have hb : b ≠ '_' := h.ne_underscore (by simp [hword])
  cases rest with
  | nil => simp [hword, remaining, cut_of_ends hb hends]
  | cons a rest =>
      have ha : a ≠ '_' := h.ne_underscore (by simp [hword])
      have hkept : endsBefore a (b :: cs) = false := by
        rw [endsBefore_word h hword, head_of_endsBefore hends, Bool.and_false]
      rw [hword, remaining, cut_of_not_ends ha hkept, cut_of_ends hb hends, attach_attach]
      simp [attach]

theorem result_close {s : Scan} (h : s.Open) {cs : List Char}
    (hends : ∀ b rest, s.word = b :: rest → endsBefore b cs = true) :
    s.close.done.reverse ++ cut cs = result s cs := by
  unfold result close
  split
  next hword => simp [hword, remaining]
  next hword =>
    obtain ⟨b, rest, hb⟩ := List.exists_cons_of_ne_nil hword
    rw [remaining_of_ends h hb (hends b rest hb)]
    simp

theorem Open.result_step {s t : Scan} (h : s.Open) {c : Char} (hstep : Step s c t) (cs : List Char) :
    result t cs = result s (c :: cs) := by
  -- A step completes a word exactly where the cut, which looks ahead, ends one.
  cases hstep with
  | underscore =>
      rw [← result_close h (by simp [endsBefore]), result, word_close, remaining, cut_underscore]
  | @capital b _ rest hword hb hc hne =>
      have hends (b' rest') (hword' : s.word = b' :: rest') : endsBefore b' (c :: cs) = true := by
        obtain ⟨rfl, _⟩ : b = b' ∧ rest = rest' := by simpa [hword] using hword'
        simp [endsBefore, hb, hc]
      rw [← result_close h hends, result, push, word_close, remaining]
  | @acronym a b _ rest hword ha hb hc hne =>
      have ha' : a ≠ '_' := h.ne_underscore (by simp [hword])
      have hb' : b ≠ '_' := h.ne_underscore (by simp [hword])
      have hends : endsBefore a (b :: c :: cs) = true := by
        rw [endsBefore_word h hword]
        simp [ha, hb, hc]
      rw [result, result, hword, remaining, remaining, cut_of_ends ha' hends, List.reverse_nil,
        attach_nil (cut_ne_nil hb' _)]
      simp [attach]
  | letter hcapital hacronym hne =>
      rw [result, result]
      congr 1
      rcases hword : s.word with _ | ⟨b, _ | ⟨a, rest⟩⟩
      · simp [push, hword, remaining]
      · have hb : b ≠ '_' := h.ne_underscore (by simp [hword])
        simp [push, hword, remaining, attach_nil (cut_ne_nil hb _)]
      · have ha : a ≠ '_' := h.ne_underscore (by simp [hword])
        have hkept : endsBefore a (b :: c :: cs) = false := by
          rw [endsBefore_word h hword]
          simpa [and_assoc] using hacronym b a rest hword
        simp [push, hword, remaining, cut_of_not_ends ha hkept, attach_attach]

theorem words_foldl {s : Scan} (h : s.Open) (cs : List Char) :
    (cs.foldl step s).words = result s cs := by
  induction cs generalizing s with
  | nil =>
      rw [List.foldl_nil, words, ← result_close h (by simp [endsBefore]), cut, List.append_nil]
  | cons c cs ih =>
      have hstep := step_spec s c
      rw [List.foldl_cons, ih (h.step hstep), h.result_step hstep]

end Scan

theorem words_eq_cut (cs : List Char) : words cs = cut cs :=
  Scan.words_foldl (s := ⟨[], []⟩) ⟨by simp, by simp⟩ cs

end GLBindings.Symbol
