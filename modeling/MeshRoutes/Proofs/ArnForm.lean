import MeshRoutes.VirtualNode.Arn
/-!
# The form of an ARN

What is read as the ARN of a virtual node is what is written from parts that do not run into their
neighbours: no colon in the four parts behind the scheme, and a mesh and a node that are named
without a slash. A colon in the mesh or in the node does no harm.
-/

namespace MeshRoutes.VirtualNode.Arn

/-- Parts that can be told apart once they are written. -/
structure WellFormed (arn : Arn) : Prop where
  partition : ':' ∉ arn.partition.toList
  service : ':' ∉ arn.service.toList
  region : ':' ∉ arn.region.toList
  account : ':' ∉ arn.account.toList
  mesh : arn.mesh ≠ "" ∧ '/' ∉ arn.mesh.toList
  node : arn.node ≠ "" ∧ '/' ∉ arn.node.toList

theorem toList_render (arn : Arn) : arn.render.toList =
    "arn".toList ++ ':' :: (arn.partition.toList ++ ':' :: (arn.service.toList ++ ':' ::
      (arn.region.toList ++ ':' :: (arn.account.toList ++ ':' :: ("mesh".toList ++ '/' ::
        (arn.mesh.toList ++ '/' :: ("virtualNode".toList ++ '/' :: arn.node.toList))))))) := by
  simp [render]

/-- A text is read as an ARN exactly if it is how the parts of that ARN are written. -/
theorem read?_eq_some_iff {text : String} {arn : Arn} :
    read? text = some arn ↔ text = arn.render ∧ arn.WellFormed := by
  rw [← String.toList_inj, toList_render]
  simp only [read?, Option.bind_eq_bind, Option.bind_eq_some_iff, Prod.exists,
    Text.cut?_eq_some_iff, Option.ite_none_right_eq_some]
  constructor
  · rintro ⟨_, _, ⟨htext, -⟩, partition, _, ⟨rfl, hpartition⟩, service, _, ⟨rfl, hservice⟩,
      region, _, ⟨rfl, hregion⟩, account, _, ⟨rfl, haccount⟩, _, _, ⟨rfl, -⟩, mesh, _,
      ⟨rfl, hmesh⟩, _, node, ⟨rfl, -⟩, ⟨rfl, rfl, rfl, hmeshNe, hnodeNe, hnode⟩, ⟨⟩⟩
    refine ⟨by simpa only [String.toList_ofList] using htext, ?_⟩
    exact {
      partition := by rwa [String.toList_ofList]
      service := by rwa [String.toList_ofList]
      region := by rwa [String.toList_ofList]
      account := by rwa [String.toList_ofList]
      mesh := ⟨by simpa using hmeshNe, by rwa [String.toList_ofList]⟩
      node := ⟨by simpa using hnodeNe, by rwa [String.toList_ofList]⟩ }
  · rintro ⟨htext, h⟩
    -- each part ends at the first separator behind it, since it holds none itself
    refine ⟨_, _, ⟨htext, by decide⟩, _, _, ⟨rfl, h.partition⟩, _, _, ⟨rfl, h.service⟩,
      _, _, ⟨rfl, h.region⟩, _, _, ⟨rfl, h.account⟩, _, _, ⟨rfl, by decide⟩,
      _, _, ⟨rfl, h.mesh.2⟩, _, _, ⟨rfl, by decide⟩, ⟨rfl, rfl, rfl, ?_, ?_, h.node.2⟩, ?_⟩
    · simpa using h.mesh.1
    · simpa using h.node.1
    · simp only [String.ofList_toList]

theorem read?_eq_none_iff {text : String} :
    read? text = none ↔ ∀ arn : Arn, arn.WellFormed → text ≠ arn.render := by
  simp only [Option.eq_none_iff_forall_ne_some, ne_eq, read?_eq_some_iff, not_and']

theorem WellFormed.eq_of_read? {text : String} {arn parts : Arn} (h : arn.WellFormed)
    (htext : text = arn.render) (hread : read? text = some parts) : arn = parts := by
  rw [read?_eq_some_iff.2 ⟨htext, h⟩] at hread
  exact Option.some.inj hread

/-- Parts that can be told apart are known by how they are written. -/
theorem WellFormed.render_inj {a b : Arn} (ha : a.WellFormed) (hb : b.WellFormed)
    (h : a.render = b.render) : a = b :=
  ha.eq_of_read? h.symm (read?_eq_some_iff.2 ⟨rfl, hb⟩)

end MeshRoutes.VirtualNode.Arn
