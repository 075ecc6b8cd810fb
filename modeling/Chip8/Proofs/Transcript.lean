/-
# Chip8.Proofs.Transcript — requests one after another, and what is answered

A part that is asked something answers, and is then in another state. The transcript of a list of
requests has all answers in order and the last state. Two parts are compared request by request: if
parts that are alike answer alike and are alike again, then so it is with lists of requests
(`transcript_alike`).
-/
import Mathlib.Data.List.Forall2

namespace Chip8

set_option autoImplicit false

variable {S T A B R : Type}

/-- The answers to some requests, one after another, and the state that is left. -/
def transcript (step : S → A → R × S) (s : S) : List A → List R × S
  | [] => ([], s)
  | a :: rest =>
      let (answer, s) := step s a
      let (answers, s) := transcript step s rest
      (answer :: answers, s)

theorem transcript_cons (step : S → A → R × S) (s : S) (a : A) (rest : List A) :
    transcript step s (a :: rest) =
      ((step s a).1 :: (transcript step (step s a).2 rest).1,
        (transcript step (step s a).2 rest).2) := rfl

theorem transcript_append (step : S → A → R × S) (s : S) (first second : List A) :
    transcript step s (first ++ second) =
      ((transcript step s first).1 ++ (transcript step (transcript step s first).2 second).1,
        (transcript step (transcript step s first).2 second).2) := by
  induction first generalizing s with
  | nil => rfl
  | cons a rest ih =>
      rw [List.cons_append, transcript_cons, transcript_cons, ih]
      rfl

/-- Parts that stay alike answer alike to requests that are the same for them. -/
theorem transcript_alike {step : S → A → R × S} {step' : T → B → R × T} {Same : A → B → Prop}
    {Alike : S → T → Prop}
    (square : ∀ {s t a b}, Alike s t → Same a b →
      (step s a).1 = (step' t b).1 ∧ Alike (step s a).2 (step' t b).2)
    {s : S} {t : T} (alike : Alike s t) {as : List A} {bs : List B}
    (same : List.Forall₂ Same as bs) :
    (transcript step s as).1 = (transcript step' t bs).1 ∧
      Alike (transcript step s as).2 (transcript step' t bs).2 := by
  induction same generalizing s t with
  | nil => exact ⟨rfl, alike⟩
  | cons first _ ih =>
      obtain ⟨answer, next⟩ := square alike first
      obtain ⟨answers, last⟩ := ih next
      refine ⟨?_, last⟩
      rw [transcript_cons, transcript_cons, answer, answers]

/-- Parts that stay alike answer alike to equal requests. -/
theorem transcript_eq {step : S → A → R × S} {step' : T → A → R × T} {Alike : S → T → Prop}
    (square : ∀ {s t} (a : A), Alike s t →
      (step s a).1 = (step' t a).1 ∧ Alike (step s a).2 (step' t a).2)
    {s : S} {t : T} (alike : Alike s t) (requests : List A) :
    (transcript step s requests).1 = (transcript step' t requests).1 ∧
      Alike (transcript step s requests).2 (transcript step' t requests).2 := by
  have square' {s : S} {t : T} {a b : A} (alike : Alike s t) (same : a = b) :
      (step s a).1 = (step' t b).1 ∧ Alike (step s a).2 (step' t b).2 := same ▸ square a alike
  exact transcript_alike square' alike (List.forall₂_same.2 fun _ _ => rfl)

end Chip8
