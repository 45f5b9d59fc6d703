import Mathlib.Data.String.Basic
import TreeSieve.Text.Blank

/-!
# Splitting texts

Cutting a text at a separator of one character is cutting the list of its
characters.  The text is walked by byte positions; what carries the induction is
that the positions stand at the borders of three stretches of characters: those
before the current part, those of the current part, and those still to come.
-/

namespace TreeSieve

open String (utf8Len)

theorem splitOnAux_of_valid (separator : Char) (front part rest : List Char)
    (found : List String) :
    String.splitOnAux (.ofList (front ++ part ++ rest)) (.ofList [separator]) ⟨utf8Len front⟩
        ⟨utf8Len front + utf8Len part⟩ 0 found =
      found.reverse ++ (rest.splitOnPPrepend (· == separator) part.reverse).map .ofList := by
  induction rest generalizing front part found with
  | nil =>
      have atEnd := (String.atEnd_of_valid (front ++ part) []).mpr rfl
      rw [String.utf8Len_append] at atEnd
      rw [String.splitOnAux, if_pos atEnd, String.extract_of_valid]
      simp
  | cons character rest ih =>
      have inside := mt (String.atEnd_of_valid (front ++ part) (character :: rest)).mp (by simp)
      have get := String.get_of_valid (front ++ part) (character :: rest)
      have next := String.next_of_valid (front ++ part) character rest
      have wanted : (0 : String.Pos.Raw).get (.ofList [separator]) = separator :=
        String.get_of_valid [] [separator]
      rw [String.utf8Len_append] at inside get next
      rw [String.splitOnAux, if_neg inside, get, wanted, List.headD_cons,
        List.splitOnPPrepend_cons_eq_if]
      by_cases same : character = separator
      · -- The separator has ended, so the part goes to those found.
        subst same
        have behind : (0 : String.Pos.Raw).next (.ofList [character]) = ⟨character.utf8Size⟩ := by
          simpa using String.next_of_valid [] character []
        have ended : String.Pos.Raw.atEnd (.ofList [character]) ⟨character.utf8Size⟩ = true := by
          simpa using String.atEnd_of_valid [character] []
        have back : String.Pos.Raw.unoffsetBy
            ⟨utf8Len front + utf8Len part + character.utf8Size⟩ ⟨character.utf8Size⟩ =
              ⟨utf8Len front + utf8Len part⟩ := by
          simp [String.Pos.Raw.unoffsetBy]
        have later := ih (front ++ part ++ [character]) [] (.ofList part :: found)
        simp only [String.utf8Len_append, String.utf8Len_cons, String.utf8Len_nil, List.append_nil,
          List.append_assoc, List.singleton_append, Nat.add_zero, Nat.zero_add] at later
        simp only [next, behind, ended, if_true, BEq.rfl]
        rw [back, String.extract_of_valid]
        simp only [List.append_assoc, Nat.add_assoc]
        rw [later]
        simp
      · have stay : String.Pos.Raw.unoffsetBy ⟨utf8Len front + utf8Len part⟩ 0 =
            ⟨utf8Len front + utf8Len part⟩ := rfl
        have later := ih front (part ++ [character]) found
        rw [if_neg (by simp [same]), if_neg (by simp [same]), stay, next]
        simp only [String.utf8Len_append, String.utf8Len_cons, String.utf8Len_nil,
          List.append_assoc, List.singleton_append, Nat.zero_add, Nat.add_assoc,
          List.reverse_append, List.reverse_singleton] at later ⊢
        exact later

/-- A text is cut at one character where the list of its characters is. -/
theorem splitOn_eq_map_splitOn (character : Char) {separator : String}
    (single : separator.toList = [character]) (text : String) :
    text.splitOn separator = (text.toList.splitOn character).map .ofList := by
  obtain rfl : separator = .ofList [character] := by rw [← single, String.ofList_toList]
  have walked := splitOnAux_of_valid character [] [] text.toList []
  simp only [List.nil_append, String.ofList_toList, List.reverse_nil] at walked
  rw [String.splitOn, if_neg (by simp)]
  exact walked

end TreeSieve
