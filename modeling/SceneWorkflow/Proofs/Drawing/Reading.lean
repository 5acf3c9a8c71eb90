import SceneWorkflow.Drawing
import SceneWorkflow.Proofs.Json.Digits
import Mathlib.Data.List.Basic
import Mathlib.Data.List.Nodup

/-!
# Reading drawings

A drawing tells what it is a drawing of. Each part of a statement shows where it
ends, whatever comes after it, and no statement can be taken for one of another kind.
So names may hold any text: quotation marks, line breaks, and what looks like DOT.
-/
namespace SceneWorkflow

/-! ### Integers -/

def isIntegral (c : Char) : Bool := c.isDigit || c == '-'

theorem toList_repr (n : Int) :
    n.repr.toList = (if n < 0 then ['-'] else []) ++ Nat.toDigits 10 n.natAbs := by
  cases n with
  | ofNat n => simp [Int.repr, Nat.repr]
  | negSucc n => simp [Int.repr, Nat.repr, Int.negSucc_lt_zero]

theorem toDigits_inj {m n : Nat} (h : Nat.toDigits 10 m = Nat.toDigits 10 n) : m = n := by
  rw [← Nat.ofDigitChars_ten_toDigits (n := m), h, Nat.ofDigitChars_ten_toDigits]

theorem isIntegral_of_mem_repr {n : Int} {c : Char} (hc : c ∈ n.repr.toList) :
    isIntegral c = true := by
  rw [toList_repr, List.mem_append] at hc
  cases hc with
  | inl hminus =>
    split at hminus
    · simp [isIntegral, List.mem_singleton.1 hminus]
    · cases hminus
  | inr hdigit => simp [isIntegral, (isDigits_toDigits n.natAbs).2 c hdigit]

theorem toDigits_ne_minus (n : Nat) (r : List Char) : Nat.toDigits 10 n ≠ '-' :: r := by
  intro h
  have hdigit := (isDigits_toDigits n).2 '-' (by simp [h])
  exact absurd hdigit (by decide)

theorem repr_inj {m n : Int} (h : m.repr.toList = n.repr.toList) : m = n := by
  rw [toList_repr, toList_repr] at h
  by_cases hm : m < 0 <;> by_cases hn : n < 0 <;> simp only [hm, hn, if_true, if_false] at h
  · have habs := toDigits_inj (List.cons.inj h).2
    omega
  · exact absurd h.symm (toDigits_ne_minus _ _)
  · exact absurd h (toDigits_ne_minus _ _)
  · have habs := toDigits_inj h
    omega

/-- An integer, and where it ends, can be told from what is written. -/
theorem repr_cons_inj {m n : Int} {c d : Char} {r r' : List Char}
    (hc : isIntegral c = false) (hd : isIntegral d = false) :
    m.repr.toList ++ c :: r = n.repr.toList ++ d :: r' ↔ m = n ∧ c = d ∧ r = r' := by
  constructor
  · intro h
    have hread := congrArg (List.takeWhile isIntegral) h
    rw [takeWhile_append (fun _ => isIntegral_of_mem_repr) (stops_cons hc r),
      takeWhile_append (fun _ => isIntegral_of_mem_repr) (stops_cons hd r')] at hread
    rw [hread] at h
    exact ⟨repr_inj hread, by simpa using h⟩
  · rintro ⟨rfl, rfl, rfl⟩
    rfl

namespace Drawing

/-! ### Writings -/

section
variable {α β : Type} {write : α → List Char} {told : α → β} {r r' : List Char}

/-- What is written of something tells what it says and where it ends, whatever comes after it. -/
def Tells (write : α → List Char) (told : α → β) : Prop :=
  ∀ a b r r', write a ++ r = write b ++ r' ↔ told a = told b ∧ r = r'

/-- What comes next is no further writing of the kind. -/
def Ends (write : α → List Char) (r : List Char) : Prop := ∀ a q, write a ++ q ≠ r

/-- Writings one after the other tell what each of them says. -/
theorem Tells.flatMap (h : Tells write told) (hr : Ends write r) (hr' : Ends write r')
    (as bs : List α) :
    as.flatMap write ++ r = bs.flatMap write ++ r' ↔ as.map told = bs.map told ∧ r = r' := by
  induction as generalizing bs with
  | nil =>
    cases bs with
    | nil => simp
    | cons b bs => simpa using (hr b _).symm
  | cons a as ih =>
    cases bs with
    | nil => simpa using hr' a _
    | cons b bs =>
      simp only [List.flatMap_cons, List.append_assoc, List.map_cons, List.cons.injEq]
      rw [h a b, ih bs, and_assoc]

end

/-! ### Names -/

def escapeChar (c : Char) : List Char := if c = '\\' ∨ c = '"' then ['\\', c] else [c]

theorem tells_escapeChar : Tells escapeChar id := by
  intro c d r r'
  by_cases hc : c = '\\' ∨ c = '"' <;> by_cases hd : d = '\\' ∨ d = '"' <;>
    simp [escapeChar, hc, hd]
  · grind
  · grind

theorem ends_quote (r : List Char) : Ends escapeChar ('"' :: r) := by
  intro c q
  by_cases hc : c = '\\' ∨ c = '"' <;> simp [escapeChar, hc]
  grind

theorem ends_newline (r : List Char) : Ends escapeChar ('\\' :: 'n' :: r) := by
  intro c q
  by_cases hc : c = '\\' ∨ c = '"' <;> simp [escapeChar, hc]
  · grind
  · grind

theorem escape_append_inj {a b : String} {r r' : List Char} (hr : Ends escapeChar r)
    (hr' : Ends escapeChar r') : escape a ++ r = escape b ++ r' ↔ a = b ∧ r = r' := by
  have h := tells_escapeChar.flatMap hr hr' a.toList b.toList
  rw [List.map_id, List.map_id, String.toList_inj] at h
  exact h

theorem color_append_inj {s t : Status} {r r' : List Char} :
    s.color.toList ++ ']' :: r = t.color.toList ++ ']' :: r' ↔ s = t ∧ r = r' := by
  cases s <;> cases t <;> simp [Status.color]

theorem label_append_inj {a b : String} {m n : Int} {r r' : List Char} :
    label a m ++ r = label b n ++ r' ↔ a = b ∧ m = n ∧ r = r' := by
  simp [label, quoted, toString, escape_append_inj (ends_newline _) (ends_newline _),
    repr_cons_inj (show isIntegral ')' = false from rfl) (show isIntegral ')' = false from rfl)]

/-! ### Statements -/

theorem isIntegral_blank : isIntegral ' ' = false := rfl

theorem isIntegral_semicolon : isIntegral ';' = false := rfl

def shownScene (s : Scene) : Int × String × Status := (s.id, s.sourceId, s.status)

theorem tells_sceneNode : Tells sceneNode shownScene := by
  intro s t r r'
  simp [sceneNode, shownScene, toString, repr_cons_inj isIntegral_blank isIntegral_blank,
    label_append_inj, color_append_inj]
  tauto

/-- What is drawn of a tile, the tile before it apart. -/
def shownNode (t : Tile) : Int × String × Status × Int := (t.id, t.sourceId, t.status, t.scene)

def tileStatement (scenes : List Scene) (t : Tile) : List Char := tileNode t ++ sceneEdge scenes t

theorem tells_tileStatement (scenes : List Scene) : Tells (tileStatement scenes) shownNode := by
  intro t u r r'
  simp only [tileStatement, tileNode, sceneEdge, shownNode, toString, String.toList_append,
    List.append_assoc]
  simp [repr_cons_inj isIntegral_blank isIntegral_blank, label_append_inj, color_append_inj]
  constructor
  · rintro ⟨hid, hname, -, hstatus, hscene, -, hrest⟩
    rw [hscene, List.append_cancel_left_eq] at hrest
    exact ⟨⟨hid, hname, hstatus, hscene⟩, by simpa using hrest⟩
  · rintro ⟨⟨hid, hname, hstatus, hscene⟩, rfl⟩
    simp [hid, hname, hstatus, hscene]

/-- The edges from scenes depend on what is drawn of the scenes. -/
theorem sceneEdge_congr {scenes scenes' : List Scene}
    (h : scenes.map shownScene = scenes'.map shownScene) : sceneEdge scenes = sceneEdge scenes' := by
  have hdone (scenes : List Scene) (t : Tile) :
      ((scenes.find? fun s => s.id == t.scene).any fun s => s.status == .done) =
        (((scenes.map shownScene).find? fun x => x.1 == t.scene).any fun x => x.2.2 == .done) := by
    rw [List.find?_map, Option.any_map]
    rfl
  funext t
  simp only [sceneEdge, hdone, h]

theorem previousEdge_append_inj {t u : Tile} {p q : Int} (ht : t.previous = some p)
    (hu : u.previous = some q) {r r' : List Char} :
    previousEdge t ++ r = previousEdge u ++ r' ↔
      p = q ∧ t.id = u.id ∧ (t.status = .done ↔ u.status = .done) ∧ r = r' := by
  by_cases hdt : t.status = .done <;> by_cases hdu : u.status = .done <;>
    simp [previousEdge, ht, hu, hdt, hdu, toString,
      repr_cons_inj isIntegral_blank isIntegral_blank,
      repr_cons_inj isIntegral_blank isIntegral_semicolon,
      repr_cons_inj isIntegral_semicolon isIntegral_blank,
      repr_cons_inj isIntegral_semicolon isIntegral_semicolon]

/-! ### Drawings -/

def closing : List Char := ['\x7d', '\n']

/-- What is no edge between two tiles is not found among them. -/
theorem Ends.previousEdges {α : Type} {write : α → List Char} {tiles : List Tile}
    (hedge : ∀ t ∈ tiles, ∀ p, t.previous = some p → ∀ r, Ends write (previousEdge t ++ r))
    (hclosing : Ends write closing) : Ends write (tiles.flatMap previousEdge ++ closing) := by
  induction tiles with
  | nil => exact hclosing
  | cons t tiles ih =>
    cases hprevious : t.previous with
    | none =>
      have hnone : previousEdge t = [] := by simp [previousEdge, hprevious]
      simpa [hnone] using ih fun u hu => hedge u (List.mem_cons_of_mem t hu)
    | some p => simpa using hedge t List.mem_cons_self p hprevious _

/-- An edge to one tile is not found among those to others. -/
theorem ends_previousEdges {t : Tile} {p : Int} (ht : t.previous = some p) {tiles : List Tile}
    (hid : t.id ∉ tiles.map (·.id)) :
    Ends (fun _ : Unit => previousEdge t) (tiles.flatMap previousEdge ++ closing) := by
  apply Ends.previousEdges
  · intro u hmem q hu r _ r' h
    exact hid (((previousEdge_append_inj ht hu).1 h).2.1 ▸ List.mem_map_of_mem hmem)
  · intro _ r
    simp [previousEdge, ht, closing, toString]

/-- The edges between tiles tell which tile each tile follows. -/
theorem previousEdges_inj {tiles tiles' : List Tile}
    (hnode : tiles.map shownNode = tiles'.map shownNode) (hid : (tiles.map (·.id)).Nodup) :
    tiles.flatMap previousEdge ++ closing = tiles'.flatMap previousEdge ++ closing ↔
      tiles.map (·.previous) = tiles'.map (·.previous) := by
  induction tiles generalizing tiles' with
  | nil => simp_all
  | cons t tiles ih =>
    cases tiles' with
    | nil => simp at hnode
    | cons u tiles' =>
      simp only [List.map_cons, List.cons.injEq] at hnode
      obtain ⟨hhead, hrest⟩ := hnode
      have hsame : tiles.map (·.id) = tiles'.map (·.id) := by
        have hfst := congrArg (List.map Prod.fst) hrest
        rwa [List.map_map, List.map_map] at hfst
      simp only [shownNode, Prod.mk.injEq] at hhead
      simp only [List.map_cons, List.nodup_cons] at hid
      cases ht : t.previous with
      | none =>
        have hnone : previousEdge t = [] := by simp [previousEdge, ht]
        cases hu : u.previous with
        | none => simpa [hnone, previousEdge, ht, hu] using ih hrest hid.2
        | some q =>
          have hother : u.id ∉ tiles.map (·.id) := hhead.1 ▸ hid.1
          simpa [hnone, ht, hu] using (ends_previousEdges hu hother () _).symm
      | some p =>
        cases hu : u.previous with
        | none =>
          have hnone : previousEdge u = [] := by simp [previousEdge, hu]
          have hother : t.id ∉ tiles'.map (·.id) := hsame ▸ hid.1
          simpa [hnone, ht, hu] using ends_previousEdges ht hother () _
        | some q =>
          simp [previousEdge_append_inj ht hu, ht, hu, hhead, ih hrest hid.2]

theorem ends_sceneNode (scenes : List Scene) (tiles : List Tile) :
    Ends sceneNode
      (tiles.flatMap (tileStatement scenes) ++ (tiles.flatMap previousEdge ++ closing)) := by
  cases tiles with
  | nil => simp [Ends, sceneNode, closing, toString]
  | cons t tiles => simp [Ends, sceneNode, tileStatement, tileNode, toString]

theorem ends_tileStatement (scenes : List Scene) (tiles : List Tile) :
    Ends (tileStatement scenes) (tiles.flatMap previousEdge ++ closing) := by
  apply Ends.previousEdges
  · intro u _ p hu r t q
    simp [tileStatement, tileNode, previousEdge, hu, toString,
      repr_cons_inj isIntegral_blank isIntegral_blank]
  · intro t q
    simp [tileStatement, tileNode, closing, toString]

def shownTile (t : Tile) : Int × String × Status × Int × Option Int :=
  (t.id, t.sourceId, t.status, t.scene, t.previous)

theorem map_shownTile {tiles tiles' : List Tile} :
    tiles.map shownTile = tiles'.map shownTile ↔
      tiles.map shownNode = tiles'.map shownNode ∧
        tiles.map (·.previous) = tiles'.map (·.previous) := by
  induction tiles generalizing tiles' with
  | nil => simp
  | cons t tiles ih =>
    cases tiles' with
    | nil => simp
    | cons u tiles' =>
      simp only [List.map_cons, List.cons.injEq, ih, shownTile, shownNode, Prod.mk.injEq]
      tauto

theorem chars_eq (aoi : String) (scenes : List Scene) (tiles : List Tile) :
    chars aoi scenes tiles =
      "digraph ".toList ++ '"' :: (escape aoi ++ '"' :: ' ' :: '\x7b' :: '\n' ::
        (scenes.flatMap sceneNode ++ (tiles.flatMap (tileStatement scenes) ++
          (tiles.flatMap previousEdge ++ closing)))) := by
  delta chars tileStatement
  simp only [quoted, closing, List.append_assoc, List.cons_append, List.nil_append]

/-- Two drawings are the same only if they show the same. -/
theorem chars_inj {aoi aoi' : String} {scenes scenes' : List Scene} {tiles tiles' : List Tile}
    (hid : (tiles.map (·.id)).Nodup) :
    chars aoi scenes tiles = chars aoi' scenes' tiles' ↔
      aoi = aoi' ∧ scenes.map shownScene = scenes'.map shownScene ∧
        tiles.map shownTile = tiles'.map shownTile := by
  rw [chars_eq, chars_eq, List.append_cancel_left_eq, List.cons.injEq,
    escape_append_inj (ends_quote _) (ends_quote _), map_shownTile]
  simp only [List.cons.injEq, true_and]
  rw [tells_sceneNode.flatMap (ends_sceneNode _ _) (ends_sceneNode _ _)]
  apply and_congr_right'
  apply and_congr_right
  intro hscenes
  have hstatement : tileStatement scenes' = tileStatement scenes := by
    funext t
    rw [tileStatement, tileStatement, sceneEdge_congr hscenes]
  rw [hstatement, (tells_tileStatement scenes).flatMap (ends_tileStatement _ _)
    (ends_tileStatement _ _)]
  exact and_congr_right fun hnode => previousEdges_inj hnode hid

end Drawing

open Drawing in
/-- A drawing tells the name of the area, of every scene its id, name and status, and of every tile
its id, name and status, its scene, and the tile that it follows. No text in a name can add to this or
take from it. -/
theorem drawGraph_inj {aoi aoi' : String} {scenes scenes' : List Scene} {tiles tiles' : List Tile}
    (hid : (tiles.map (·.id)).Nodup) :
    drawGraph aoi scenes tiles = drawGraph aoi' scenes' tiles' ↔
      aoi = aoi' ∧
      scenes.map (fun s => (s.id, s.sourceId, s.status)) =
        scenes'.map (fun s => (s.id, s.sourceId, s.status)) ∧
      tiles.map (fun t => (t.id, t.sourceId, t.status, t.scene, t.previous)) =
        tiles'.map (fun t => (t.id, t.sourceId, t.status, t.scene, t.previous)) := by
  rw [drawGraph, drawGraph, String.ofList_inj]
  exact chars_inj hid

/-- A scene whose name imitates the end of its own label and the start of another node does not pass
for two scenes. -/
theorem drawGraph_ne_forged :
    let forged : Scene :=
      { (default : Scene) with
        id := 1, sourceId := "a\n(id=1)\" shape=box color=gray];\n  s2 [label=\"b" }
    let a : Scene := { (default : Scene) with id := 1, sourceId := "a" }
    let b : Scene := { (default : Scene) with id := 2, sourceId := "b" }
    let first : Tile := { (default : Tile) with id := 1, scene := 1 }
    let second : Tile := { (default : Tile) with id := 2, scene := 2, previous := some 1 }
    ([first, second].map (·.id)).Nodup ∧
      drawGraph "x\" \x7b" [forged] [first, second] ≠ drawGraph "x\" \x7b" [a, b] [first, second] := by
  intro forged a b first second
  refine ⟨by decide, fun h => ?_⟩
  have hshown := (drawGraph_inj (by decide)).1 h
  exact absurd hshown (by decide)

end SceneWorkflow
