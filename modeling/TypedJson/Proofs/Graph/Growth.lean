import TypedJson.Graph.Builder
import TypedJson.Proofs.Graph.Faultless

/-!
# Growth of a builder

What a builder has collected is in order (`Builder.Orderly`): every type refers to types that are
there, arrays, maps and unions refer to earlier ones, and there is one type at most of each simple
kind, where the builder finds it. Operations keep it in order while it grows (`Builder.Extends`).
A type that is there stays as it is, apart from descriptions and properties added to a record
(`TypeGraph.Grows`); this is told from types without their descriptions (`TypeGraph.bare?`).
-/

namespace TypedJson

/-! ## Types without descriptions -/

/-- The property without its description. -/
def Property.bare (p : Property) : Property :=
  { p with description := none }

namespace Kind

/-- The kind without descriptions. -/
def bare : Kind → Kind
  | .record r => .record ⟨r.name, r.properties.map Property.bare, none⟩
  | .enumeration e => .enumeration { e with description := none }
  | kind => kind

/-- The kind with further properties, if it is that of a record. -/
def extend (more : List Property) : Kind → Kind
  | .record r => .record { r with properties := r.properties ++ more }
  | kind => kind

/-- The kind has neither parts nor a name, so that one type of it is enough. -/
def isSimple : Kind → Bool
  | .any | .null | .bool | .integer | .double | .text | .formatted _ => true
  | .array _ | .map _ | .record _ | .enumeration _ | .union _ => false

end Kind

/-- The type without descriptions. -/
def Node.bare (node : Node) : Node :=
  { node with kind := node.kind.bare }

/-- The type with further properties, if it is a record. -/
def Node.extend (more : List Property) (node : Node) : Node :=
  { node with kind := node.kind.extend more }

namespace TypeGraph

/-- The type that a reference denotes, without descriptions. -/
def bare? (g : TypeGraph) (t : TypeRef) : Option Node :=
  (g.node? t).map Node.bare

/-- The types of a graph are in a later one too, with more properties if they are records. -/
def Grows (g g' : TypeGraph) (more : TypeRef → List Property) : Prop :=
  ∀ t n, g.bare? t = some n → g'.bare? t = some (n.extend (more t))

variable {g g' g'' : TypeGraph} {t : TypeRef} {n : Node} {k : Kind} {more : TypeRef → List Property}

/-- Descriptions refer to no types. -/
theorem kindRefs_bare (k : Kind) : kindRefs k.bare = kindRefs k := by
  cases k with
  | record r => exact List.map_map.trans rfl
  | any | null | bool | integer | double | text | array | map | enumeration | union | formatted => rfl

/-- Further properties refer to their types. -/
theorem kindRefs_extend {more : List Property} {r : TypeRef} (h : r ∈ kindRefs (k.extend more)) :
    r ∈ kindRefs k ∨ r ∈ more.map Property.type := by
  cases k with
  | record record => exact List.mem_append.1 (List.map_append ▸ h)
  | any | null | bool | integer | double | text | array | map | enumeration | union | formatted =>
      exact .inl h

/-- Descriptions change neither elements nor members. -/
theorem structuralRefs_bare (k : Kind) : structuralRefs k.bare = structuralRefs k := by
  cases k <;> rfl

/-- Further properties are no elements or members. -/
theorem structuralRefs_extend (more : List Property) (k : Kind) :
    structuralRefs (k.extend more) = structuralRefs k := by
  cases k <;> rfl

/-- Without further properties a kind is as it was. -/
theorem extend_nil (k : Kind) : k.extend [] = k := by
  cases k with
  | record r => rw [Kind.extend, List.append_nil]
  | any | null | bool | integer | double | text | array | map | enumeration | union | formatted => rfl

/-- Whether a kind is simple is seen without descriptions. -/
theorem isSimple_bare (k : Kind) : k.bare.isSimple = k.isSimple := by
  cases k <;> rfl

/-- Only records are extended. -/
theorem extend_eq (more : List Property) (h : k.isRecord = false) : k.extend more = k := by
  cases k <;> first | rfl | cases h

/-- The kind that a reference denotes is that of the type without descriptions, up to these. -/
theorem kind?_of_bare? (h : g.bare? t = some n) : ∃ k, g.kind? t = some k ∧ k.bare = n.kind := by
  obtain ⟨node, hnode, rfl⟩ := Option.map_eq_some_iff.1 h
  exact ⟨node.kind, by rw [kind?, hnode]; rfl, rfl⟩

/-- The type without descriptions is of the kind that the reference denotes. -/
theorem bare?_of_kind? (h : g.kind? t = some k) : ∃ n, g.bare? t = some n ∧ n.kind = k.bare := by
  obtain ⟨node, hnode, rfl⟩ := Option.map_eq_some_iff.1 h
  exact ⟨node.bare, by rw [bare?, hnode]; rfl, rfl⟩

/-- A type is within the size of the graph. -/
theorem index_lt_of_bare? (h : g.bare? t = some n) : t.index < g.size := by
  obtain ⟨k, hk, -⟩ := kind?_of_bare? h
  exact index_lt_of_kind? hk

/-- A reference within the size of the graph denotes a type. -/
theorem bare?_isSome (h : t.index < g.size) : ∃ n, g.bare? t = some n := by
  obtain ⟨k, hk⟩ := kind?_isSome h
  obtain ⟨n, hn, -⟩ := bare?_of_kind? hk
  exact ⟨n, hn⟩

/-- Whether a type is a union is seen without its descriptions. -/
theorem isUnion_of_bare? (h : g.bare? t = some n) :
    g.kindHolds Kind.isUnion t = n.kind.isUnion := by
  obtain ⟨k, hk, hbare⟩ := kind?_of_bare? h
  rw [kindHolds_eq hk, ← hbare]
  cases k <;> rfl

/-! ## Growing graphs -/

/-- A graph that grows has no fewer types. -/
theorem Grows.size_le (h : g.Grows g' more) : g.size ≤ g'.size := by
  by_contra hlt
  obtain ⟨n, hn⟩ := bare?_isSome (t := ⟨g'.size⟩) (Nat.lt_of_not_le hlt)
  exact Nat.lt_irrefl _ (index_lt_of_bare? (h _ n hn))

/-- Growing without further properties keeps types as they are. -/
theorem Grows.keep (h : g.Grows g' fun _ => []) (hn : g.bare? t = some n) :
    g'.bare? t = some n := by
  have hn' := h t n hn
  rwa [Node.extend, extend_nil] at hn'

/-- A type that is no record stays as it is. -/
theorem Grows.keep_of_isRecord (h : g.Grows g' more) (hn : g.bare? t = some n)
    (hrecord : n.kind.isRecord = false) : g'.bare? t = some n := by
  have hn' := h t n hn
  rwa [Node.extend, extend_eq _ hrecord] at hn'

/-- A graph that stays as it is grows. -/
theorem Grows.of_eq (h : ∀ t, g'.bare? t = g.bare? t) : g.Grows g' fun _ => [] := by
  intro t n hn
  rw [h, hn, Node.extend, extend_nil]

/-- Properties may be added when the graph has grown before. -/
theorem Grows.trans (h : g.Grows g' fun _ => []) (h' : g'.Grows g'' more) : g.Grows g'' more :=
  fun t n hn => h' t n (h.keep hn)

/-- A type that is there stays a union, or none. -/
theorem Grows.isUnion_eq (h : g.Grows g' more) (ht : t.index < g.size) :
    g'.kindHolds Kind.isUnion t = g.kindHolds Kind.isUnion t := by
  obtain ⟨n, hn⟩ := bare?_isSome ht
  rw [isUnion_of_bare? hn, isUnion_of_bare? (h t n hn)]
  cases hk : n.kind <;> rw [Node.extend, hk] <;> rfl

/-- A type is in its place: it refers to types of the graph, to earlier ones if they are its
elements or members, which are no unions, and it is converted by the rules of its kind or is the type
of integers in texts. -/
structure Placed (g : TypeGraph) (t : TypeRef) (n : Node) : Prop where
  refs : ∀ r ∈ kindRefs n.kind, r.index < g.size
  backward : ∀ r ∈ structuralRefs n.kind, r.index < t.index
  members : ∀ ms, n.kind = .union ms → ms ≠ [] ∧ ∀ m ∈ ms, g.kindHolds Kind.isUnion m = false
  converted : n.transformation = none ∧ n.kind ≠ .formatted .integerText ∨
    ∃ text integer, text.index < t.index ∧ integer.index < t.index ∧
      g.bare? text = some ⟨.text, none⟩ ∧ g.bare? integer = some ⟨.integer, none⟩ ∧
      n = ⟨.formatted .integerText, some (Builder.integerTextTransformation text integer)⟩

/-- A type stays in its place while the graph grows, if the types of further properties are there. -/
theorem Placed.grows (hn : g.Placed t n) (h : g.Grows g' more)
    (hmore : ∀ p ∈ more t, p.type.index < g'.size) : g'.Placed t (n.extend (more t)) where
  refs r hr := by
    obtain hr | hr := kindRefs_extend hr
    · exact Nat.lt_of_lt_of_le (hn.refs r hr) h.size_le
    · obtain ⟨p, hp, rfl⟩ := List.mem_map.1 hr
      exact hmore p hp
  backward r hr := hn.backward r (structuralRefs_extend (more t) n.kind ▸ hr)
  members ms hms := by
    have hkind : n.kind = .union ms := by
      cases hk : n.kind with
      | union => rw [Node.extend, hk] at hms; exact hms
      | any | null | bool | integer | double | text | array | map | record | enumeration | formatted =>
          rw [Node.extend, hk] at hms
          cases hms
    obtain ⟨hne, hmembers⟩ := hn.members ms hkind
    refine ⟨hne, fun m hm => ?_⟩
    rw [h.isUnion_eq (hn.refs m (by rw [hkind]; exact hm))]
    exact hmembers m hm
  converted := by
    rcases hn.converted with ⟨hnone, hne⟩ | ⟨text, integer, htext, hinteger, hbare, hbare', rfl⟩
    · refine .inl ⟨hnone, fun heq => hne ?_⟩
      cases hk : n.kind <;> rw [Node.extend, hk] at heq <;> first | exact heq | cases heq
    · exact .inr ⟨text, integer, htext, hinteger, h.keep_of_isRecord hbare rfl,
        h.keep_of_isRecord hbare' rfl, rfl⟩

end TypeGraph

namespace Builder

open TypeGraph

/-! ## Builders in order -/

/-- The types and top-levels collected so far. -/
def graph (b : Builder) : TypeGraph :=
  ⟨b.types, b.topLevels⟩

/-- Every type is in its place, and each simple kind has one type at most, where the builder finds
it. -/
structure Orderly (b : Builder) : Prop where
  placed {t : TypeRef} {n : Node} : b.graph.bare? t = some n → b.graph.Placed t n
  interned {k : Kind} (hk : k.isSimple = true) (t : TypeRef) :
    b.primitives.lookup k.name = some t ↔ ∃ n, b.graph.bare? t = some n ∧ n.kind = k

/-- A builder in order that has the types and top-levels of an earlier one, and maybe more types. -/
structure Extends (b b' : Builder) : Prop where
  orderly : b'.Orderly
  grows : b.graph.Grows b'.graph fun _ => []
  topLevels : b'.topLevels = b.topLevels

variable {b b' b'' : Builder} {k kind : Kind} {node : Node}

/-- A builder in order extends itself. -/
theorem Extends.refl (h : b.Orderly) : b.Extends b :=
  ⟨h, .of_eq fun _ => rfl, rfl⟩

/-- Extensions add up. -/
theorem Extends.trans (h : b.Extends b') (h' : b'.Extends b'') : b.Extends b'' :=
  ⟨h'.orderly, h.grows.trans h'.grows, h'.topLevels.trans h.topLevels⟩

/-- At the start all is in order, as there is nothing. -/
theorem orderly_empty : empty.Orderly :=
  ⟨nofun, fun _ _ => ⟨nofun, fun ⟨_, hn, _⟩ => nomatch hn⟩⟩

/-! ## Adding a type -/

/-- A type that is added stands behind those that are there. -/
theorem bare?_push (htypes : b'.types = b.types.push node) (t : TypeRef) :
    b'.graph.bare? t = if t.index = b.types.size then some node.bare else b.graph.bare? t := by
  show (b'.types[t.index]?).map Node.bare = _
  rw [htypes, Array.getElem?_push]
  split <;> rfl

/-- A type that is added to a builder in order extends it, if it is in its place, and the builder
finds it if it is the first one of a simple kind. -/
theorem Orderly.extends (h : b.Orderly) (htypes : b'.types = b.types.push node)
    (htops : b'.topLevels = b.topLevels) (hnode : b.graph.Placed ⟨b.types.size⟩ node.bare)
    (hinterned : ∀ {k}, k.isSimple = true → ∀ t, b'.primitives.lookup k.name = some t ↔
      b.primitives.lookup k.name = some t ∨ t = ⟨b.types.size⟩ ∧ node.bare.kind = k) :
    b.Extends b' := by
  have hnew (t : TypeRef) (n : Node) (hn : b.graph.bare? t = some n) : t.index ≠ b.types.size :=
    Nat.ne_of_lt (index_lt_of_bare? hn)
  have hgrows : b.graph.Grows b'.graph fun _ => [] := by
    intro t n hn
    rw [bare?_push htypes, if_neg (hnew t n hn), hn, Node.extend, extend_nil]
  -- Both parts are told by whether a type is the one that was added or was there before.
  refine ⟨⟨fun {t n} hn => ?_, fun {k} hk t => ?_⟩, hgrows, htops⟩
  · rw [bare?_push htypes] at hn
    split at hn
    next heq =>
      obtain rfl : t = ⟨b.types.size⟩ := congrArg TypeRef.mk heq
      obtain rfl := Option.some.inj hn
      have hplaced := hnode.grows hgrows nofun
      rwa [Node.extend, extend_nil] at hplaced
    next =>
      have hplaced := (h.placed hn).grows hgrows nofun
      rwa [Node.extend, extend_nil] at hplaced
  · rw [hinterned hk, h.interned hk, bare?_push htypes]
    split
    next heq =>
      obtain rfl : t = ⟨b.types.size⟩ := congrArg TypeRef.mk heq
      rw [or_iff_right fun ⟨n, hn, _⟩ => hnew _ n hn rfl]
      exact ⟨fun h => ⟨_, rfl, h.2⟩, fun ⟨n, hn, hkind⟩ => ⟨rfl, Option.some.inj hn ▸ hkind⟩⟩
    next hne =>
      exact or_iff_left fun ⟨heq, _⟩ => hne (congrArg TypeRef.index heq)

/-- Adding a type that is not of a simple kind. -/
theorem Orderly.push (h : b.Orderly) (kind : Kind) (hsimple : kind.isSimple = false)
    (hrefs : ∀ r ∈ kindRefs kind, r.index < b.types.size)
    (hunion : ∀ ms, kind = .union ms →
      ms ≠ [] ∧ ∀ m ∈ ms, b.graph.kindHolds Kind.isUnion m = false) :
    b.Extends (b.push kind).2 ∧
      (b.push kind).2.graph.bare? (b.push kind).1 = some ⟨kind.bare, none⟩ := by
  refine ⟨h.extends rfl rfl ⟨?_, ?_, ?_, ?_⟩ fun {k} hk t => ?_, ?_⟩
  · exact fun r hr => hrefs r (kindRefs_bare kind ▸ hr)
  · exact fun r hr => hrefs r (mem_kindRefs (structuralRefs_bare kind ▸ hr))
  · intro ms hms
    refine hunion ms ?_
    cases kind <;> cases hms
    rfl
  · refine .inl ⟨rfl, fun heq => ?_⟩
    have hformatted : kind.bare.isSimple = true := congrArg Kind.isSimple heq
    rw [isSimple_bare, hsimple] at hformatted
    cases hformatted
  · refine (or_iff_left ?_).symm
    rintro ⟨-, rfl⟩
    have hbare : kind.bare.isSimple = true := hk
    rw [isSimple_bare, hsimple] at hbare
    cases hbare
  · exact (bare?_push rfl _).trans (if_pos rfl)

/-- The simple kinds. -/
def simpleKinds : List Kind :=
  [.any, .null, .bool, .integer, .double, .text, .formatted .dateTime, .formatted .integerText]

/-- All simple kinds are listed. -/
theorem mem_simpleKinds (h : k.isSimple = true) : k ∈ simpleKinds := by
  cases k with
  | any | null | bool | integer | double | text => decide
  | formatted format => cases format <;> decide
  | array | map | record | enumeration | union => cases h

/-- Simple kinds are known by their names. -/
theorem eq_of_name_eq (h : k.isSimple = true) (h' : kind.isSimple = true)
    (hname : k.name = kind.name) : k = kind := by
  have hnodup : (simpleKinds.map Kind.name).Nodup := by decide
  exact List.inj_on_of_nodup_map hnodup (mem_simpleKinds h) (mem_simpleKinds h') hname

/-- A type of a simple kind has no parts. -/
theorem kindRefs_of_isSimple (h : k.isSimple = true) : kindRefs k = [] := by
  cases k <;> first | rfl | cases h

/-- Only records and enumerations have descriptions. -/
theorem bare_of_isSimple (h : k.isSimple = true) : k.bare = k := by
  cases k <;> first | rfl | cases h

/-- The first type of a simple kind extends a builder, which then finds it. -/
theorem Orderly.intern (h : b.Orderly) (node : Node) (hk : kind.isSimple = true)
    (hnew : b.primitives.lookup kind.name = none) (hkind : node.kind = kind)
    (hnode : b.graph.Placed ⟨b.types.size⟩ node) :
    b.Extends ⟨b.types.push node, (kind.name, ⟨b.types.size⟩) :: b.primitives, b.topLevels⟩ := by
  have hbare : node.bare = node := by
    rw [Node.bare, hkind, bare_of_isSimple hk, ← hkind]
  refine h.extends rfl rfl (hbare.symm ▸ hnode) fun {k} hsimple t => ?_
  rw [hbare, hkind, List.lookup_cons]
  by_cases hname : k.name = kind.name
  · obtain rfl := eq_of_name_eq hsimple hk hname
    simp [hnew, eq_comm]
  · have hne : kind ≠ k := fun heq => hname (congrArg Kind.name heq.symm)
    simp [beq_false_of_ne hname, hne]

/-- The type of a simple kind, which is found or added. -/
theorem Orderly.primitive (h : b.Orderly) (kind : Kind) (hk : kind.isSimple = true)
    (hne : kind ≠ .formatted .integerText) :
    b.Extends (b.primitive kind).2 ∧
      (b.primitive kind).2.graph.bare? (b.primitive kind).1 = some ⟨kind, none⟩ := by
  unfold Builder.primitive
  split
  next t hfound =>
    obtain ⟨⟨_, transformation⟩, hn, rfl⟩ := (h.interned hk t).1 hfound
    refine ⟨.refl h, ?_⟩
    rcases (h.placed hn).converted with ⟨hnone, -⟩ | ⟨_, _, _, _, _, _, heq⟩
    · obtain rfl : transformation = none := hnone
      exact hn
    · exact absurd (congrArg Node.kind heq) hne
  next hnew =>
    refine ⟨h.intern ⟨kind, none⟩ hk hnew rfl ⟨?_, ?_, ?_, .inl ⟨rfl, hne⟩⟩, ?_⟩
    · rw [kindRefs_of_isSimple hk]
      exact List.forall_mem_nil _
    · intro r hr
      have hr := mem_kindRefs hr
      rw [kindRefs_of_isSimple hk] at hr
      cases hr
    · rintro ms rfl
      cases hk
    · refine (bare?_push rfl _).trans ((if_pos rfl).trans ?_)
      rw [Node.bare, bare_of_isSimple hk]

/-- The union of a type with the null type. -/
theorem Orderly.nullable (h : b.Orderly) {t : TypeRef} (ht : t.index < b.graph.size)
    (hmember : b.graph.kindHolds Kind.isUnion t = false) :
    b.Extends (b.nullable t).2 ∧ ∃ null, (b.nullable t).2.graph.bare? null = some ⟨.null, none⟩ ∧
      (b.nullable t).2.graph.bare? (b.nullable t).1 = some ⟨.union [null, t], none⟩ := by
  obtain ⟨hextends, hnull⟩ := h.primitive .null rfl nofun
  let withNull := b.primitive .null
  have hmembers : ∀ m ∈ [withNull.1, t], m.index < withNull.2.graph.size ∧
      withNull.2.graph.kindHolds Kind.isUnion m = false := by
    refine List.forall_mem_cons.2 ⟨⟨index_lt_of_bare? hnull, isUnion_of_bare? hnull⟩,
      List.forall_mem_singleton.2 ⟨?_, ?_⟩⟩
    · exact Nat.lt_of_lt_of_le ht hextends.grows.size_le
    · rw [hextends.grows.isUnion_eq ht, hmember]
  obtain ⟨hextends', hbare⟩ := hextends.orderly.push (.union [withNull.1, t]) rfl
    (fun m hm => (hmembers m hm).1) fun ms hms => by
      cases hms
      exact ⟨List.cons_ne_nil _ _, fun m hm => (hmembers m hm).2⟩
  exact ⟨hextends.trans hextends', withNull.1, hextends'.grows.keep hnull, hbare⟩

/-- A new simple kind is added and remembered. -/
theorem primitive_of_none (hnew : b.primitives.lookup kind.name = none) :
    b.primitive kind = (⟨b.types.size⟩, ⟨b.types.push ⟨kind, none⟩,
      (kind.name, ⟨b.types.size⟩) :: b.primitives, b.topLevels⟩) := by
  unfold Builder.primitive
  rw [hnew]
  rfl

/-- The other simple kinds are found where they were. -/
theorem lookup_primitive (hname : k.name ≠ kind.name) :
    (b.primitive kind).2.primitives.lookup k.name = b.primitives.lookup k.name := by
  cases hfound : b.primitives.lookup kind.name with
  | some t =>
      unfold Builder.primitive
      rw [hfound]
  | none =>
      rw [primitive_of_none hfound, List.lookup_cons, beq_false_of_ne hname]

/-- The type that was added last is changed by adding it changed. -/
theorem modify_push (types : Array Node) (node : Node) (f : Node → Node) :
    (types.push node).modify types.size f = types.push (f node) := by
  refine Array.ext_getElem? fun i => ?_
  rw [Array.getElem?_modify, Array.getElem?_push, Array.getElem?_push]
  by_cases h : types.size = i
  · rw [if_pos h, if_pos h.symm, if_pos h.symm]
    rfl
  · rw [if_neg h, if_neg (Ne.symm h), if_neg (Ne.symm h)]

/-- Types of texts and of integers are no types of integers in texts. -/
theorem lookup_text_integer :
    ((b.primitive .text).2.primitive .integer).2.primitives.lookup
        (Kind.formatted .integerText).name = b.primitives.lookup (Kind.formatted .integerText).name := by
  rw [lookup_primitive (by decide), lookup_primitive (by decide)]

/-- The type of integers in texts is added behind the types of texts and of integers. -/
theorem integerText_of_none
    (hnew : b.primitives.lookup (Kind.formatted .integerText).name = none) :
    b.integerText =
      let text := b.primitive .text
      let integer := text.2.primitive .integer
      let t : TypeRef := ⟨integer.2.types.size⟩
      let node : Node :=
        ⟨.formatted .integerText, some (integerTextTransformation text.1 integer.1)⟩
      (t, ⟨integer.2.types.push node,
        ((Kind.formatted .integerText).name, t) :: integer.2.primitives, integer.2.topLevels⟩) := by
  have hnew' := lookup_text_integer.trans hnew
  have hopen : b.integerText =
      let text := b.primitive .text
      let integer := text.2.primitive .integer
      let t := integer.2.primitive (.formatted .integerText)
      (t.1, t.2.setTransformation t.1 (integerTextTransformation text.1 integer.1)) := by
    simp only [Builder.integerText, hnew]
  refine hopen.trans ?_
  simp only [primitive_of_none hnew', setTransformation, modify_push]

/-- The type of integers in texts, which is found or added. -/
theorem Orderly.integerText (h : b.Orderly) :
    b.Extends b.integerText.2 ∧ ∃ text integer,
      b.integerText.2.graph.bare? text = some ⟨.text, none⟩ ∧
      b.integerText.2.graph.bare? integer = some ⟨.integer, none⟩ ∧
      b.integerText.2.graph.bare? b.integerText.1 =
        some ⟨.formatted .integerText, some (integerTextTransformation text integer)⟩ := by
  cases hfound : b.primitives.lookup (Kind.formatted .integerText).name with
  | some t =>
      have heq : b.integerText = (t, b) := by
        simp only [Builder.integerText, hfound]
      obtain ⟨n, hn, hkind⟩ := (h.interned (k := .formatted .integerText) rfl t).1 hfound
      rw [heq]
      rcases (h.placed hn).converted with ⟨-, hne⟩ | ⟨text, integer, -, -, htext, hinteger, rfl⟩
      · exact absurd hkind hne
      · exact ⟨.refl h, text, integer, htext, hinteger, hn⟩
  | none =>
      -- Texts and integers come first, so that the transformation refers to earlier types.
      obtain ⟨htext, hbareText⟩ := h.primitive .text rfl nofun
      obtain ⟨hinteger, hbareInteger⟩ := htext.orderly.primitive .integer rfl nofun
      have hbareText := hinteger.grows.keep hbareText
      have hlast := hinteger.orderly.intern ⟨.formatted .integerText,
          some (integerTextTransformation (b.primitive .text).1
            ((b.primitive .text).2.primitive .integer).1)⟩ rfl
        (lookup_text_integer.trans hfound) rfl
        ⟨nofun, nofun, nofun, .inr ⟨_, _, index_lt_of_bare? hbareText,
          index_lt_of_bare? hbareInteger, hbareText, hbareInteger, rfl⟩⟩
      rw [integerText_of_none hfound]
      refine ⟨htext.trans (hinteger.trans hlast), _, _, hlast.grows.keep hbareText,
        hlast.grows.keep hbareInteger, ?_⟩
      exact (bare?_push rfl _).trans (if_pos rfl)

/-! ## Changing a type -/

/-- A builder stays in order while the records that it has get further properties. -/
theorem Orderly.revise {more : TypeRef → List Property} (h : b.Orderly)
    (hbare : ∀ t, b'.graph.bare? t = (b.graph.bare? t).map (Node.extend (more t)))
    (hprimitives : b'.primitives = b.primitives)
    (hmore : ∀ t, ∀ p ∈ more t, p.type.index < b.graph.size) :
    b'.Orderly ∧ b.graph.Grows b'.graph more := by
  have hgrows : b.graph.Grows b'.graph more := fun t n hn => by rw [hbare, hn, Option.map_some]
  refine ⟨⟨fun {t n} hn => ?_, fun {k} hk t => ?_⟩, hgrows⟩
  · rw [hbare] at hn
    obtain ⟨given, hgiven, rfl⟩ := Option.map_eq_some_iff.1 hn
    exact (h.placed hgiven).grows hgrows fun p hp =>
      Nat.lt_of_lt_of_le (hmore t p hp) hgrows.size_le
  · rw [hprimitives, h.interned hk, hbare]
    have hrecord : k.isRecord = false := by cases k <;> first | rfl | cases hk
    constructor
    · rintro ⟨n, hn, rfl⟩
      exact ⟨_, by rw [hn]; rfl, extend_eq _ hrecord⟩
    · rintro ⟨_, hn', hkind⟩
      obtain ⟨n, hn, rfl⟩ := Option.map_eq_some_iff.1 hn'
      refine ⟨n, hn, ?_⟩
      cases hnk : n.kind with
      | record r => rw [Node.extend, hnk] at hkind; subst hkind; cases hk
      | any | null | bool | integer | double | text | array | map | enumeration | union
          | formatted => rw [Node.extend, hnk] at hkind; exact hkind

/-- Changing a kind adds properties to one type if it does to its kind. -/
theorem bare?_modifyKind {t : TypeRef} {f : Kind → Kind} {more : List Property}
    (hf : ∀ k, b.graph.kind? t = some k → (f k).bare = k.bare.extend more) (u : TypeRef) :
    (b.modifyKind t f).graph.bare? u =
      (b.graph.bare? u).map (Node.extend (if t = u then more else [])) := by
  have hnode : (b.modifyKind t f).graph.node? u = if t.index = u.index then
      (b.graph.node? u).map fun node => { node with kind := f node.kind } else b.graph.node? u :=
    Array.getElem?_modify
  rw [TypeGraph.bare?, hnode, TypeGraph.bare?]
  by_cases heq : t.index = u.index
  · obtain rfl : t = u := congrArg TypeRef.mk heq
    rw [if_pos rfl, if_pos rfl]
    cases hn : b.graph.node? t with
    | none => rfl
    | some node =>
        have hk : b.graph.kind? t = some node.kind := by rw [kind?, hn]; rfl
        simp only [Option.map_some, Node.bare, Node.extend, hf _ hk]
  · rw [if_neg heq, if_neg fun h => heq (congrArg TypeRef.index h)]
    cases b.graph.node? u with
    | none => rfl
    | some node => simp only [Option.map_some, Node.extend, extend_nil]

/-- A description of a property is none of its name and type. -/
theorem bare_describeFirst (name text : String) (properties : List Property) :
    (describeFirst name text properties).map Property.bare = properties.map Property.bare := by
  induction properties with
  | nil => rfl
  | cons p rest ih =>
      rw [describeFirst]
      split
      · rfl
      · rw [List.map_cons, ih, List.map_cons]

/-- Describing a kind changes its descriptions only. -/
theorem bare_describeKind (property : Option String) (text : String) (k : Kind) :
    (describeKind property text k).bare = k.bare := by
  cases k with
  | record r =>
      cases property with
      | none => rfl
      | some name => rw [describeKind, Kind.bare, bare_describeFirst]; rfl
  | enumeration e => cases property <;> rfl
  | any | null | bool | integer | double | text | array | map | union | formatted => rfl

/-- Describing a type extends a builder. -/
theorem Orderly.describe (h : b.Orderly) (t : TypeRef) (property : Option String) (text : String) :
    b.Extends (b.describe t property text) := by
  have hbare (u : TypeRef) : (b.describe t property text).graph.bare? u =
      (b.graph.bare? u).map (Node.extend (if t = u then [] else [])) :=
    bare?_modifyKind (fun k _ => (bare_describeKind property text k).trans (extend_nil _).symm) u
  simp only [ite_self] at hbare
  obtain ⟨horderly, hgrows⟩ := h.revise hbare rfl nofun
  exact ⟨horderly, hgrows, rfl⟩

/-- A builder stays in order when it gets a top-level. -/
theorem Orderly.topLevel (h : b.Orderly) (name : String) (t : TypeRef) :
    (b.topLevel name t).Orderly ∧ b.graph.Grows (b.topLevel name t).graph fun _ => [] := by
  refine h.revise (fun u => ?_) rfl nofun
  show b.graph.bare? u = _
  cases b.graph.bare? u with
  | none => rfl
  | some n => rw [Option.map_some, Node.extend, extend_nil]

/-- Adding a property to a record gives it that property. -/
theorem Orderly.addProperty (h : b.Orderly) {t type : TypeRef} {r : Record} (name : String)
    (hrecord : b.graph.kind? t = some (.record r)) (htype : type.index < b.graph.size) :
    ∃ b', b.addProperty t name type = .ok b' ∧ b'.topLevels = b.topLevels ∧ b'.Orderly ∧
      b.graph.Grows b'.graph fun u => if t = u then [⟨name, type, none⟩] else [] := by
  have hadd : b.addProperty t name type = .ok (b.modifyKind t fun _ =>
      .record { r with properties := r.properties ++ [⟨name, type, none⟩] }) := by
    have hk : (b.types[t.index]?).map Node.kind = some (.record r) := hrecord
    rw [Builder.addProperty, hk]
  refine ⟨_, hadd, rfl, h.revise (bare?_modifyKind fun k hk => ?_) rfl fun u p hp => ?_⟩
  · obtain rfl := Option.some.inj (hrecord.symm.trans hk)
    simp only [Kind.bare, Kind.extend, List.map_append]
    rfl
  · split at hp
    · rw [List.mem_singleton.1 hp]
      exact htype
    · cases hp

/-! ## Acceptance -/

/-- Integers in texts are converted by way of texts and integers. -/
theorem mem_refs_integerTextTransformation {text integer r : TypeRef}
    (h : r ∈ (integerTextTransformation text integer).refs) : r = text ∨ r = integer := by
  simp only [integerTextTransformation, Transformation.refs, Transformer.refs, Transformer.nextRefs,
    List.mem_cons, List.mem_append, List.not_mem_nil] at h
  tauto

/-- A transformation refers to earlier types. -/
theorem Orderly.index_lt_of_transformation (h : b.Orderly) {t r : TypeRef} {x : Transformation}
    (hnode : b.graph.node? t = some node) (hx : node.transformation = some x) (hr : r ∈ x.refs) :
    r.index < t.index := by
  have hbare : b.graph.bare? t = some node.bare := by rw [bare?, hnode]; rfl
  rcases (h.placed hbare).converted with ⟨hnone, -⟩ | ⟨text, integer, htext, hinteger, -, -, heq⟩
  · cases hnone.symm.trans hx
  · obtain rfl := Option.some.inj (hx.symm.trans (congrArg Node.transformation heq))
    rcases mem_refs_integerTextTransformation hr with rfl | rfl
    · exact htext
    · exact hinteger

/-- In a builder in order every type is higher than those that converting it leads to, as it stands
behind them. -/
theorem Orderly.isHeight (h : b.Orderly) : b.graph.IsHeight TypeRef.index := by
  refine ⟨id, fun {t r k} hk hr => ?_, fun {t r x} _ hx hr _ => ?_⟩
  · obtain ⟨n, hn, hkind⟩ := bare?_of_kind? hk
    refine (h.placed hn).backward r ?_
    rw [hkind, structuralRefs_bare]
    exact hr
  · obtain ⟨node, hnode, hx⟩ := Option.bind_eq_some_iff.1 hx
    exact h.index_lt_of_transformation hnode hx hr

/-- A builder in order has collected a graph without faults once it has top-levels of different
names that denote types. -/
theorem Orderly.faultless (h : b.Orderly) (hne : b.topLevels ≠ [])
    (hnamed : (b.topLevels.map TopLevel.name).Nodup)
    (htops : ∀ top ∈ b.topLevels, top.type.index < b.graph.size) : b.graph.Faultless where
  nonempty := hne
  named := hnamed
  topLevels := htops
  closed t node hnode := by
    have hbare : b.graph.bare? t = some node.bare := by rw [bare?, hnode]; rfl
    refine ⟨fun r hr => (h.placed hbare).refs r ?_, fun x hx r hr => ?_⟩
    · exact (kindRefs_bare node.kind).symm ▸ hr
    · exact Nat.lt_trans (h.index_lt_of_transformation hnode hx hr) (index_lt_of_bare? hbare)
  members {t ms} hk := by
    obtain ⟨n, hn, hkind⟩ := bare?_of_kind? hk
    exact (h.placed hn).members ms hkind
  acyclic := ⟨TypeRef.index, h.isHeight⟩

/-- A builder in order has one type of a simple kind at most. -/
theorem Orderly.eq_of_isSimple (h : b.Orderly) (hk : k.isSimple = true) {t t' : TypeRef}
    (ht : b.graph.kind? t = some k) (ht' : b.graph.kind? t' = some k) : t = t' := by
  have hfound {t : TypeRef} (ht : b.graph.kind? t = some k) :
      b.primitives.lookup k.name = some t := by
    obtain ⟨n, hn, hkind⟩ := bare?_of_kind? ht
    exact (h.interned hk t).2 ⟨n, hn, hkind.trans (bare_of_isSimple hk)⟩
  exact Option.some.inj ((hfound ht).symm.trans (hfound ht'))

end Builder

end TypedJson
