/-
This file shows which templates the reader accepts and where it refuses the others.
-/

import HostTree.Proofs.Template.Token

namespace HostTree.Template

open Text

variable {text : List Char}

/-- A text is cut into tokens in one way only. -/
theorem Composes.unique {first second : List (List Char)} (composes : Composes Token first text)
    (other : Composes Token second text) : first = second := by
  obtain ⟨segments, rfl, rfl, sound⟩ := composes.exists_segments
  obtain ⟨others, rfl, same, soundOther⟩ := other.exists_segments
  have readBack : Except.ok (ε := TemplateFlaw) segments = .ok others := by
    rw [← read_write sound, same, read_write soundOther]
  rw [Except.ok.inj readBack]

/-- A text that is stuck behind its tokens is refused at that place. -/
theorem read_write_append {segments : List Segment} (sound : Sound segments)
    {rest : List Char} (stuck : Stuck rest) :
    ∃ brace others, rest = brace :: others ∧ (brace = '{' ∨ brace = '}') ∧
      read (write segments ++ rest) = .error (.unbalanced brace (byteSize (write segments))) := by
  obtain ⟨brace, others, rfl, kind, refused⟩ := readFrom_stuck stuck (byteSize (write segments))
  refine ⟨brace, others, rfl, kind, ?_⟩
  rw [read, readFrom_write sound, Nat.zero_add, refused]
  rfl

/-- The segments are those of the tokens. -/
theorem read_eq_ok_iff {segments : List Segment} :
    read text = .ok segments ↔ Composes Token (segments.map Segment.token) text := by
  constructor
  · intro success
    obtain ⟨found, rest, rfl, sound, ended | stuck⟩ := exists_write_append text
    · rw [ended, List.append_nil, read_write sound] at success
      rw [ended, List.append_nil, ← Except.ok.inj success]
      exact composes_write sound
    · obtain ⟨_, _, _, _, refused⟩ := read_write_append sound stuck
      rw [refused] at success
      cases success
  · intro composes
    have written : write segments = text := by rw [write_eq_flatten, composes.joined]
    rw [← written, read_write (List.forall_mem_map.mp composes.each)]

theorem exists_read_iff : (∃ segments, read text = .ok segments) ↔ Balanced text := by
  constructor
  · rintro ⟨segments, success⟩
    exact ⟨_, read_eq_ok_iff.mp success⟩
  · rintro ⟨tokens, composes⟩
    obtain ⟨segments, rfl, _, _⟩ := composes.exists_segments
    exact ⟨segments, read_eq_ok_iff.mpr composes⟩

/-- A refused text is balanced up to a brace that no token begins with, and the flaw tells where
this brace stands. -/
theorem exists_stuck_of_error {flaw : TemplateFlaw} (failure : read text = .error flaw) :
    ∃ front brace rest, text = front ++ brace :: rest ∧ Balanced front ∧
      (brace = '{' ∨ brace = '}') ∧ Stuck (brace :: rest) ∧
      flaw = .unbalanced brace (byteSize front) := by
  obtain ⟨segments, rest, rfl, sound, ended | stuck⟩ := exists_write_append text
  · rw [ended, List.append_nil, read_write sound] at failure
    cases failure
  · obtain ⟨brace, others, rfl, kind, refused⟩ := read_write_append sound stuck
    rw [refused] at failure
    exact ⟨write segments, brace, others, rfl, ⟨_, composes_write sound⟩, kind, stuck,
      (Except.error.inj failure).symm⟩

/-- The reader accepts the balanced templates. Their tokens are unique, and nothing of them is lost.
A template that it refuses is balanced up to a brace where no token fits, and the failure tells the
brace and the number of octets before it. -/
theorem read_follows_tokens (template : String) :
    ((∃ segments, read template.toList = .ok segments) ↔ Balanced template.toList) ∧
    (∀ first second, Composes Token first template.toList →
      Composes Token second template.toList → first = second) ∧
    (∀ segments, read template.toList = .ok segments →
      Composes Token (segments.map Segment.token) template.toList ∧
        write segments = template.toList) ∧
    (∀ flaw, read template.toList = .error flaw →
      ∃ (front : String) (brace : Char) (rest : String),
        template = front ++ String.singleton brace ++ rest ∧ Balanced front.toList ∧
        (brace = '{' ∨ brace = '}') ∧ Stuck (brace :: rest.toList) ∧
        flaw = .unbalanced brace front.utf8ByteSize) := by
  refine ⟨exists_read_iff, fun _ _ => Composes.unique, fun segments success => ?_,
    fun flaw failure => ?_⟩
  · have composes := read_eq_ok_iff.mp success
    exact ⟨composes, by rw [write_eq_flatten, composes.joined]⟩
  · obtain ⟨front, brace, rest, split, balanced, kind, stuck, located⟩ :=
      exists_stuck_of_error failure
    refine ⟨String.ofList front, brace, String.ofList rest, ?_, ?_, kind, ?_, located⟩
    · apply String.toList_injective
      rw [split]
      simp
    · rwa [String.toList_ofList]
    · rwa [String.toList_ofList]

/-- The offset counts octets. -/
example : read ['é', '}'] = .error (.unbalanced '}' 2) := rfl

end HostTree.Template
