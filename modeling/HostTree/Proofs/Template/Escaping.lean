/-
This file shows that doubled braces keep a text as it is.
-/

import HostTree.Proofs.Template.Composition

namespace HostTree.Template

/-- This template stands for the content itself. -/
def escaped (content : String) : String :=
  String.ofList (escape content.toList)

variable {item : Value}

/-- An escaped text has no placeholder. -/
theorem withoutPlaceholder_escaped (content : String) :
    WithoutPlaceholder (escaped content).toList := by
  rw [escaped, String.toList_ofList]
  refine ⟨content.toList.map fun character => escape [character], ?_, ?_⟩
  · exact List.forall_mem_map.mpr fun character _ => literalToken_escape character
  · rw [← List.flatMap_def, escape]
    exact congrArg content.toList.flatMap (funext fun _ => List.flatMap_singleton _ _)

/-- Without a placeholder all braces are escaped, so they are balanced. -/
theorem WithoutPlaceholder.balanced {text : List Char} (literal : WithoutPlaceholder text) :
    Balanced text := by
  obtain ⟨tokens, each, joined⟩ := literal
  exact ⟨tokens, fun token among => .literal (each token among), joined⟩

/-- An escaped text is read as the characters of the text. -/
theorem read_escape (text : List Char) : read (escape text) = .ok (text.map Segment.literal) := by
  rw [← write_map_literal, read_write (sound_map_literal text)]

/-- An escaped text resolves to the text, whatever the item is. -/
theorem resolve_escaped (content : String) (item : Value) :
    resolve (escaped content) (some item) = .ok content := by
  rw [resolve_eq_ok_iff, escaped, String.toList_ofList]
  exact ⟨_, read_escape content.toList, fillItem_map_literal item content.toList⟩

/-- An escaped text comes before the result of what follows. -/
theorem resolve_escaped_append {content second text : String}
    (resolved : resolve second (some item) = .ok text) :
    resolve (escaped content ++ second) (some item) = .ok (content ++ text) := by
  have literal := withoutPlaceholder_escaped content
  rw [resolve_append_of_balanced_eq_ok_iff literal.balanced (.inr literal)]
  exact ⟨content, text, resolve_escaped content item, resolved, rfl⟩

/-- The item stands before the rest of the template. -/
theorem resolve_itemPlaceholder_append (scalar : item.IsScalar) {second text : String}
    (resolved : resolve second (some item) = .ok text) :
    resolve (itemPlaceholder ++ second) (some item) = .ok (item.text ++ text) := by
  rw [resolve_append_of_balanced_eq_ok_iff balanced_itemPlaceholder (.inl scalar)]
  exact ⟨item.text, text, resolve_itemPlaceholder scalar, resolved, rfl⟩

/-- An escaped text resolves to itself with every item. It also does so before and behind a
placeholder, and the braces do not mix. -/
theorem escaping_protects (content : String) (item : Value) :
    resolve (escaped content) (some item) = .ok content ∧
    (item.IsScalar → ∀ ending,
      resolve (escaped content ++ itemPlaceholder ++ escaped ending) (some item) =
        .ok (content ++ item.text ++ ending)) := by
  refine ⟨resolve_escaped content item, fun scalar ending => ?_⟩
  rw [String.append_assoc, String.append_assoc]
  exact resolve_escaped_append
    (resolve_itemPlaceholder_append scalar (resolve_escaped ending item))

/-- Three braces are an escaped one beside the brace of a placeholder. -/
theorem escaping_protects_three_braces :
    (Value.integer 7).IsScalar ∧
      resolve "\x7b\x7b\x7bitem\x7d\x7d\x7d" (some (.integer 7)) = .ok "\x7b7\x7d" := by
  have scalar : (Value.integer 7).IsScalar := fun _ => nofun
  have written : escaped "\x7b" ++ itemPlaceholder ++ escaped "\x7d" =
      "\x7b\x7b\x7bitem\x7d\x7d\x7d" := by decide
  have value : (Value.integer 7).text = "7" := by decide
  have result := (escaping_protects "\x7b" (.integer 7)).2 scalar "\x7d"
  rw [written, value] at result
  exact ⟨scalar, result⟩

end HostTree.Template
