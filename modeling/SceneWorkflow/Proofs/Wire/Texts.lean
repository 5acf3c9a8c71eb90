import SceneWorkflow.Proofs.Wire.Jobs

/-!
# Texts that are read back

Whatever a text is read as is read from its own text too, for every type of document.
So writing what has been read brings a text to a form that it then keeps.
-/
namespace SceneWorkflow
namespace Json

def readText {α : Type} (d : Json → Option α) (text : String) : Option α := (parse text).bind d

def rewrite {α : Type} (f : α → Json) (d : Json → Option α) (text : String) : Option String :=
  (readText d text).map fun a => (f a).print

/-- Whatever is read from some text is written as a text that it is read from, and so a text that has
been rewritten stays as it is. -/
structure RoundTrips {α : Type} (f : α → Json) (d : Json → Option α) : Prop where
  read_print : ∀ text a, readText d text = some a → readText d (f a).print = some a
  rewrite_rewrite : ∀ text, (rewrite f d text).bind (rewrite f d) = rewrite f d text

section
variable {α : Type} {f : α → Json} {d : Json → Option α} {depth : Nat}

theorem readText_print {j : Json} (h : Plain depth j) : readText d j.print = d j := by
  rw [readText, h.parse_print, Option.bind_some]

/-- What decodes from some document is to be written as one that it decodes from. -/
theorem RoundTrips.of_plain (hplain : ∀ j a, d j = some a → Plain depth (f a))
    (hread : ∀ j a, d j = some a → d (f a) = some a) : RoundTrips f d := by
  have hprint : ∀ text a, readText d text = some a → readText d (f a).print = some a := by
    intro text a h
    obtain ⟨j, -, hj⟩ := Option.bind_eq_some_iff.1 h
    rw [readText_print (hplain j a hj)]
    exact hread j a hj
  refine ⟨hprint, fun text => ?_⟩
  unfold rewrite
  cases hread : readText d text with
  | none => rfl
  | some a =>
    rw [Option.map_some, Option.bind_some, hprint text a hread]
    rfl

end

end Json

open Json

/-! ### Values without unbounded integers -/

theorem TileMapping.roundTrips : RoundTrips toJson ofJson? :=
  .of_plain (fun _ m _ => m.plain_toJson 0) fun _ m _ => m.ofJson?_toJson

theorem TileAttrs.roundTrips : RoundTrips toJson ofJson? :=
  .of_plain (fun _ a _ => a.plain_toJson 0) fun _ a _ => a.ofJson?_toJson

theorem SceneAttrs.roundTrips : RoundTrips toJson ofJson? :=
  .of_plain (fun _ a _ => a.plain_toJson 0) fun _ a _ => a.ofJson?_toJson

theorem TileLink.roundTrips : RoundTrips toJson ofJson? :=
  .of_plain (fun _ l _ => l.plain_toJson 0) fun _ l _ => l.ofJson?_toJson

theorem TileRequest.roundTrips : RoundTrips toJson ofJson? :=
  .of_plain (fun _ r _ => r.plain_toJson 0) fun _ r _ => r.ofJson?_toJson

theorem SceneRequest.roundTrips : RoundTrips toJson ofJson? :=
  .of_plain (fun _ r _ => r.plain_toJson 0) fun _ r _ => r.ofJson?_toJson

theorem Aoi.roundTrips : RoundTrips toJson ofJson? :=
  .of_plain (fun _ a _ => a.plain_toJson 0) fun _ a _ => a.ofJson?_toJson

/-! ### Values that hold integers of 64 bits -/

theorem StatusCounts.roundTrips : RoundTrips toJson ofJson? :=
  .of_plain (fun _ _ h => plain_toJson (fits_of_ofJson? h) 0)
    fun _ _ h => ofJson?_toJson (fits_of_ofJson? h)

theorem WorkerResult.roundTrips : RoundTrips toJson ofJson? :=
  .of_plain (fun _ _ h => plain_toJson (fits_of_ofJson? h) 0)
    fun _ _ h => ofJson?_toJson (fits_of_ofJson? h)

theorem SceneRef.roundTrips : RoundTrips toJson ofJson? :=
  .of_plain (fun _ _ h => plain_toJson (fits_of_ofJson? h) 0)
    fun _ _ h => ofJson?_toJson (fits_of_ofJson? h)

theorem TileRef.roundTrips : RoundTrips toJson ofJson? :=
  .of_plain (fun _ _ h => plain_toJson (fits_of_ofJson? h) 0)
    fun _ _ h => ofJson?_toJson (fits_of_ofJson? h)

theorem TileJob.roundTrips : RoundTrips toJson ofJson? :=
  .of_plain (fun _ _ h => plain_toJson (fits_of_ofJson? h) 0)
    fun _ _ h => ofJson?_toJson (fits_of_ofJson? h)

end SceneWorkflow
