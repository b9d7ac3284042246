import MeshRoutes.Remote.Route
import MeshRoutes.Text.Cut
/-!
# Default names do not collide

A router that its spec does not name goes by its own name and its namespace, with an underscore
between them. The namespace has no underscore, so it is what stands behind the last one, and the own
name may be anything. Where there is no namespace, the own name stands alone and must not look like
a joined one. Two such routers have the same name in the remote control plane only if they are
namesakes, and neither routers nor routes in one mesh are addressed alike otherwise.

* `VirtualRouter.DefaultNamed` : routers that go by a default name.
* `RouterRef.default_refs_distinct` : which of them are addressed alike, and which of their routes.
-/

namespace MeshRoutes

namespace Declared

/-- The same own name in the same namespace, or in none. -/
structure Metadata.Namesake (a b : Metadata) : Prop where
  ownName : a.ownName = b.ownName
  space : a.space = b.space

/-- The router goes by its default name. Its namespace has no underscore, and without a namespace its
own name has none. -/
structure VirtualRouter.DefaultNamed (router : VirtualRouter) : Prop where
  unnamed : router.spec.remoteName = none
  space : ∀ space, router.metadata.space = some space → '_' ∉ space.toList
  ownName : router.metadata.space = none → '_' ∉ router.metadata.ownName.toList

variable {a b router : VirtualRouter} {space other : String}

theorem VirtualRouter.toList_remoteName_of_space (hname : router.spec.remoteName = none)
    (hspace : router.metadata.space = some space) : router.remoteName.toList =
      router.metadata.ownName.toList ++ '_' :: space.toList := by
  rw [remoteName, hname, hspace]
  simp

theorem VirtualRouter.remoteName_of_no_space (hname : router.spec.remoteName = none)
    (hspace : router.metadata.space = none) : router.remoteName = router.metadata.ownName := by
  rw [remoteName, hname, hspace]
  rfl

/-- With a namespace, the default name has an underscore. -/
theorem VirtualRouter.remoteName_ne_of_no_space (ha : a.DefaultNamed)
    (hspace : a.metadata.space = none) (hb : b.spec.remoteName = none)
    (hother : b.metadata.space = some other) : a.remoteName ≠ b.remoteName := by
  intro heq
  have hjoined := toList_remoteName_of_space hb hother
  rw [← heq, remoteName_of_no_space ha.unnamed hspace] at hjoined
  apply ha.ownName hspace
  rw [hjoined]
  simp

theorem VirtualRouter.remoteName_eq_iff_of_space (ha : a.DefaultNamed) (hb : b.DefaultNamed)
    (hspace : a.metadata.space = some space) (hother : b.metadata.space = some other) :
    a.remoteName = b.remoteName ↔ a.metadata.Namesake b.metadata := by
  rw [← String.toList_inj, toList_remoteName_of_space ha.unnamed hspace,
    toList_remoteName_of_space hb.unnamed hother,
    Text.append_separator_inj (ha.space space hspace) (hb.space other hother), String.toList_inj,
    String.toList_inj]
  constructor
  · rintro ⟨hown, rfl⟩
    exact ⟨hown, hspace.trans hother.symm⟩
  · rintro ⟨hown, hsame⟩
    rw [hspace, hother] at hsame
    exact ⟨hown, Option.some.inj hsame⟩

theorem VirtualRouter.DefaultNamed.remoteName_eq_iff (ha : a.DefaultNamed) (hb : b.DefaultNamed) :
    a.remoteName = b.remoteName ↔ a.metadata.Namesake b.metadata := by
  cases hspace : a.metadata.space with
  | none =>
    cases hother : b.metadata.space with
    | none =>
      rw [remoteName_of_no_space ha.unnamed hspace, remoteName_of_no_space hb.unnamed hother]
      exact ⟨fun hown => ⟨hown, hspace.trans hother.symm⟩, Metadata.Namesake.ownName⟩
    | some other =>
      refine iff_of_false (remoteName_ne_of_no_space ha hspace hb.unnamed hother) fun h => ?_
      cases hspace.symm.trans (h.space.trans hother)
  | some space =>
    cases hother : b.metadata.space with
    | none =>
      refine iff_of_false (remoteName_ne_of_no_space hb hother ha.unnamed hspace).symm fun h => ?_
      cases hspace.symm.trans (h.space.trans hother)
    | some other => exact remoteName_eq_iff_of_space ha hb hspace hother

end Declared

namespace Remote

theorem RouterRef.of_eq_iff {mesh : Declared.Mesh} {a b : Declared.VirtualRouter} :
    RouterRef.of mesh a = RouterRef.of mesh b ↔ a.remoteName = b.remoteName := by
  simp [RouterRef.of]

theorem RouterRef.route_inj {a b : RouterRef} {name other : String} :
    a.route name = b.route other ↔ a = b ∧ name = other := by
  cases a
  cases b
  simp [RouterRef.route, and_assoc]

/-- Under one mesh, routers that go by default names have the same name exactly if they are
namesakes, and only then the same address. So a router in a namespace never has the name of one in
none, and routes are addressed alike exactly if they have the same name and are those of
namesakes. -/
theorem RouterRef.default_refs_distinct (mesh : Declared.Mesh) (a b : Declared.VirtualRouter)
    (ha : a.DefaultNamed) (hb : b.DefaultNamed) :
    (a.remoteName = b.remoteName ↔ a.metadata.Namesake b.metadata) ∧
    (a.metadata.space = none → b.metadata.space.isSome = true → a.remoteName ≠ b.remoteName) ∧
    (RouterRef.of mesh a = RouterRef.of mesh b ↔ a.metadata.Namesake b.metadata) ∧
    ∀ name other, (RouterRef.of mesh a).route name = (RouterRef.of mesh b).route other ↔
      a.metadata.Namesake b.metadata ∧ name = other := by
  have hnames := ha.remoteName_eq_iff hb
  refine ⟨hnames, ?_, of_eq_iff.trans hnames, ?_⟩
  · intro hspace hother heq
    rw [← (hnames.1 heq).space, hspace] at hother
    cases hother
  · intro name other
    rw [route_inj, of_eq_iff, hnames]

end Remote

namespace Rehearsal.Sample

def sharedMesh : Declared.Mesh := ⟨{ name := some "mesh" }, { owner := some "111122223333" }⟩

/-- A router of this name, in a namespace or in none. -/
def routerIn (name : String) (space : Option String) : Declared.VirtualRouter :=
  ⟨{ name := some name, space }, {}⟩

/-- A router that is still to be named. -/
def unnamedRouter (seed space : String) : Declared.VirtualRouter :=
  ⟨{ nameSeed := some seed, space := some space }, {}⟩

theorem routerIn_web_defaultNamed (name : String) : (routerIn name (some "web")).DefaultNamed := by
  refine ⟨rfl, ?_, nofun⟩
  rintro _ ⟨⟩
  decide

/-- An underscore in a namespace looks like the one in front of it. -/
example : (routerIn "edge_eu" (some "web")).remoteName =
    (routerIn "edge" (some "eu_web")).remoteName := rfl

end Rehearsal.Sample

namespace Remote

open Rehearsal in
theorem RouterRef.default_refs_distinct_on_sample :
    (RouterRef.of Sample.sharedMesh (Sample.routerIn "edge_eu" (some "web"))).route "r" =
        (RouterRef.of Sample.sharedMesh (Sample.unnamedRouter "edge_eu" "web")).route "r" ∧
      RouterRef.of Sample.sharedMesh (Sample.routerIn "edge_eu" (some "web")) ≠
        RouterRef.of Sample.sharedMesh (Sample.routerIn "edge" (some "web")) ∧
      (Sample.routerIn "edge" none).remoteName ≠
        (Sample.routerIn "edge_eu" (some "web")).remoteName := by
  have hweb := Sample.routerIn_web_defaultNamed "edge_eu"
  have hseed : (Sample.unnamedRouter "edge_eu" "web").DefaultNamed := by
    refine ⟨rfl, ?_, nofun⟩
    rintro _ ⟨⟩
    decide
  have hbare : (Sample.routerIn "edge" none).DefaultNamed := ⟨rfl, nofun, fun _ => by decide⟩
  obtain ⟨-, -, -, hroutes⟩ := default_refs_distinct Sample.sharedMesh _ _ hweb hseed
  obtain ⟨-, -, hrefs, -⟩ := default_refs_distinct Sample.sharedMesh _ _ hweb
    (Sample.routerIn_web_defaultNamed "edge")
  obtain ⟨-, hnames, -⟩ := default_refs_distinct Sample.sharedMesh _ _ hbare hweb
  refine ⟨(hroutes "r" "r").2 ⟨⟨rfl, rfl⟩, rfl⟩, ?_, hnames rfl rfl⟩
  intro h
  exact absurd (hrefs.1 h).ownName (by decide)

end Remote

end MeshRoutes
