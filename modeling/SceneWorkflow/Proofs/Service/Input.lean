import SceneWorkflow.Service

/-!
# The input of the service

Lines of text are found again in the bytes of the input, as no other character has the
byte of a line feed. Each can be read, without a carriage return at its end as well. So
what lines report is what the first of them report, and then what the others do.
-/
namespace SceneWorkflow.Service

def bytes (text : String) : List UInt8 := text.toUTF8.data.toList

def feed (texts : List String) : List UInt8 := texts.flatMap fun text => bytes text ++ [10]

theorem bytes_eq (text : String) : bytes text = text.toList.flatMap String.utf8EncodeChar := by
  unfold bytes
  rw [String.toUTF8_eq_toByteArray, ← String.utf8Encode_toList, List.utf8Encode,
    List.toList_data_toByteArray]

/-- In a character of several bytes all have their highest bit set. -/
theorem le_of_mem_utf8EncodeChar {c : Char} (hc : 128 ≤ c.val.toNat) :
    ∀ b ∈ String.utf8EncodeChar c, 128 ≤ b.toNat := by
  unfold String.utf8EncodeChar
  dsimp only
  rw [if_neg (by omega)]
  repeat' split
  all_goals
    simp only [List.forall_mem_cons, UInt8.toNat_ofNat', List.not_mem_nil, false_implies,
      implies_true, and_true]
    omega

/-- A byte without it is a character by itself. -/
theorem utf8EncodeChar_of_mem {c : Char} {b : UInt8} (h : b ∈ String.utf8EncodeChar c)
    (hb : b.toNat < 128) : String.utf8EncodeChar c = [b] ∧ c.toNat = b.toNat := by
  have hsmall : c.val.toNat ≤ 127 := by
    refine Nat.le_of_not_lt fun hlarge => ?_
    have hle := le_of_mem_utf8EncodeChar (by omega) b h
    omega
  have hsingle : String.utf8EncodeChar c = [UInt8.ofNat c.val.toNat] := if_pos hsmall
  rw [hsingle] at h ⊢
  obtain rfl := List.mem_singleton.1 h
  rw [UInt8.toNat_ofNat_of_lt' (show c.val.toNat < 256 by omega)]
  exact ⟨rfl, rfl⟩

theorem lines_append {line : List UInt8} (h : 10 ∉ line) (rest : List UInt8) :
    lines (line ++ 10 :: rest) = line :: lines rest := by
  induction line with
  | nil => rfl
  | cons b line ih =>
    have hb : b ≠ 10 := fun heq => h (heq ▸ List.mem_cons_self)
    rw [List.cons_append, lines, if_neg hb, ih fun hmem => h (List.mem_cons_of_mem b hmem)]

theorem not_mem_bytes {text : String} (h : '\n' ∉ text.toList) : 10 ∉ bytes text := by
  rw [bytes_eq]
  intro hmem
  obtain ⟨c, hc, hb⟩ := List.mem_flatMap.1 hmem
  have hvalue := (utf8EncodeChar_of_mem hb (by decide)).2
  have heq : c = '\n' := Char.toNat_inj.1 hvalue
  exact h (heq ▸ hc)

theorem lines_feed {texts : List String} (h : ∀ text ∈ texts, '\n' ∉ text.toList) :
    lines (feed texts) = texts.map bytes := by
  induction texts with
  | nil => rfl
  | cons text texts ih =>
    have hfeed : feed (text :: texts) = bytes text ++ 10 :: feed texts := by
      unfold feed
      rw [List.flatMap_cons, List.append_assoc]
      rfl
    rw [hfeed, lines_append (not_mem_bytes (h text List.mem_cons_self)),
      ih fun t ht => h t (List.mem_cons_of_mem text ht), List.map_cons]

theorem fromUTF8?_flatMap (chars : List Char) :
    String.fromUTF8? (ByteArray.mk (chars.flatMap String.utf8EncodeChar).toArray) =
      some (String.ofList chars) := by
  have hbytes : ByteArray.mk (chars.flatMap String.utf8EncodeChar).toArray =
      (String.ofList chars).toByteArray := by
    rw [String.toByteArray_ofList, List.utf8Encode, ← List.data_toByteArray]
  rw [hbytes, String.fromUTF8?, dif_pos (String.ofList chars).isValidUTF8]
  rfl

theorem isSome_text?_bytes (text : String) : (text? (bytes text)).isSome = true := by
  unfold text?
  dsimp only
  rw [bytes_eq]
  generalize text.toList = chars
  split
  next hreturn =>
    rcases chars.eq_nil_or_concat with rfl | ⟨front, c, rfl⟩
    · cases hreturn
    rw [List.concat_eq_append, List.flatMap_append, List.flatMap_singleton] at hreturn ⊢
    -- The byte at the end is the character at the end.
    have hmem : 13 ∈ String.utf8EncodeChar c := by
      obtain ⟨b, hb⟩ := Option.ne_none_iff_exists'.1
        (mt List.getLast?_eq_none_iff.1 (String.utf8EncodeChar_ne_nil (c := c)))
      rw [List.getLast?_append, hb, Option.some_or, ← hb] at hreturn
      exact List.mem_of_getLast? hreturn
    rw [(utf8EncodeChar_of_mem hmem (by decide)).1, List.dropLast_concat, fromUTF8?_flatMap,
      Option.isSome_some]
  next => rw [fromUTF8?_flatMap, Option.isSome_some]

theorem results_append {first : List (List UInt8)} (h : ∀ line ∈ first, (text? line).isSome = true)
    (rest : List (List UInt8)) : results (first ++ rest) = results first ++ results rest := by
  induction first with
  | nil => rfl
  | cons line first ih =>
    obtain ⟨text, htext⟩ := Option.isSome_iff_exists.1 (h line List.mem_cons_self)
    rw [List.cons_append, results, results, htext]
    dsimp only
    rw [ih fun l hl => h l (List.mem_cons_of_mem line hl), List.append_assoc]

/-- What the first lines report comes first. -/
theorem results_feed_append {texts more : List String}
    (h : ∀ text ∈ texts ++ more, '\n' ∉ text.toList) :
    results (lines (feed (texts ++ more))) =
      results (lines (feed texts)) ++ results (lines (feed more)) := by
  obtain ⟨hfirst, hmore⟩ := List.forall_mem_append.1 h
  rw [lines_feed h, lines_feed hfirst, lines_feed hmore, List.map_append]
  refine results_append (fun line hline => ?_) _
  obtain ⟨text, -, rfl⟩ := List.mem_map.1 hline
  exact isSome_text?_bytes text

end SceneWorkflow.Service
