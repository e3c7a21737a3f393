import Multibody.Proofs.Loops
import Multibody.Proofs.Body.Restore
import Multibody.Proofs.Collision.Spheres
import Multibody.Dynamics.JointSpace
import Mathlib

/-!
# Penalty contacts: action and reaction

Each contact of positive depth gives `stiffness · depth` along the normal on
the second link and its opposite on the first, static bodies left out
(`contactLoads`, `Assembly.applyContacts_eq_foldl`).  Over the reals the
loads and their moments add up to nothing (`loads_balance`), and for two
spheres the force lies along the line of centres (`ContactOf.force_along`,
`negative_stiffness_pulls_together`).
-/

namespace Multibody

section Loads

variable {α : Type} [Mul α] [Neg α] [OfScientific α] [LE α] [DecidableLE α]

/-- The forces the contacts of one pair put on links, each with its link and
the point it acts at: for each contact with positive depth, the spring force
`stiffness · depth` along the normal on the second link and its opposite on
the first, both at the contact point; a link of a static body gets none. -/
def contactLoads (static : LinkId → Bool) (k : α) (p : LinkPair α) : List (LinkId × Vec3 α × Vec3 α) :=
  p.contacts.toList.flatMap fun c =>
    if c.depth ≤ 0.0 then []
    else
      let f := c.normal.scale (k * c.depth)
      (if static p.linkB then [] else [(p.linkB, c.point, f)]) ++
        if static p.linkA then [] else [(p.linkA, c.point, f.scale (-1.0))]

theorem mem_contactLoads {S : LinkId → Bool} {k : α} {p : LinkPair α} {x : LinkId × Vec3 α × Vec3 α} :
    x ∈ contactLoads S k p ↔ ∃ c ∈ p.contacts.toList, ¬c.depth ≤ 0.0 ∧
      (S p.linkB = false ∧ x = (p.linkB, c.point, c.normal.scale (k * c.depth)) ∨
        S p.linkA = false ∧ x = (p.linkA, c.point, (c.normal.scale (k * c.depth)).scale (-1.0))) := by
  simp only [contactLoads, List.mem_flatMap]
  refine exists_congr fun c => and_congr_right fun _ => ?_
  split
  · simp [*]
  · cases S p.linkB <;> cases S p.linkA <;> simp [*]

end Loads

namespace Assembly

/-- Adds a load to its link. -/
def addLoad (a : Assembly) (x : LinkId × Vec3 × Vec3) : Assembly :=
  a.modifyLink x.1 (·.addExternalForce x.2.1 x.2.2)

theorem staticLink_addLoad (a : Assembly) (x : LinkId × Vec3 × Vec3) : (a.addLoad x).staticLink = a.staticLink := by
  funext l
  -- a force changes neither the body of a link nor its joint
  have hb : ∀ l, ((a.addLoad x).link l).body = (a.link l).body :=
    link_modifyLink_keeps a Link.body (fun m : Link => (rfl : (m.addExternalForce x.2.1 x.2.2).body = m.body)) x.1
  have hj : ∀ l, ((a.addLoad x).link l).jointType = (a.link l).jointType :=
    link_modifyLink_keeps a Link.jointType
      (fun m : Link => (rfl : (m.addExternalForce x.2.1 x.2.2).jointType = m.jointType)) x.1
  simp only [staticLink, isStaticModel, hb, hj]
  rfl

theorem staticLink_foldl_addLoad (a : Assembly) (l : List (LinkId × Vec3 × Vec3)) :
    (l.foldl addLoad a).staticLink = a.staticLink := by
  induction l generalizing a with
  | nil => rfl
  | cons x l ih => rw [List.foldl_cons, ih, staticLink_addLoad]

theorem applyContacts_eq_foldl (a : Assembly) (pairs : Array LinkPair) (k : Float) :
    a.applyContacts pairs k = (pairs.toList.flatMap (contactLoads a.staticLink k)).foldl addLoad a := by
  unfold applyContacts
  rw [← Array.foldl_toList, List.foldl_flatMap]
  -- pair by pair and contact by contact, the static test the forces read on
  -- the assembly so far is the one of `a`, since no force changes it
  refine (foldl_congr_of_keeps (fun b : Assembly => b.staticLink = a.staticLink) (fun b p hb => ?_) _ a rfl).1
  rw [← Array.foldl_toList, contactLoads, List.foldl_flatMap]
  refine foldl_congr_of_keeps (fun b : Assembly => b.staticLink = a.staticLink) (fun b c hb => ?_) _ b hb
  refine ⟨?_, by rw [staticLink_foldl_addLoad, hb]⟩
  dsimp only
  rw [hb]
  split
  · rfl
  · -- one case for each of the two links' static tests
    cases a.staticLink p.linkB <;> cases a.staticLink p.linkA <;> rfl

end Assembly

/-! ## Action and reaction in real arithmetic -/

/-- The sum of a list of vectors. -/
def Vec3.total (vs : List (Vec3 ℝ)) : Vec3 ℝ := ⟨(vs.map (·.x)).sum, (vs.map (·.y)).sum, (vs.map (·.z)).sum⟩

section Balance

variable (S : LinkId → Bool) (k : ℝ)

theorem sum_contactLoads {p : LinkPair ℝ} (hA : S p.linkA = false) (hB : S p.linkB = false)
    (g : Vec3 ℝ → Vec3 ℝ → ℝ) (hg : ∀ x f, g x (f.scale (-1.0)) = -g x f) :
    ((contactLoads S k p).map fun l => g l.2.1 l.2.2).sum = 0 := by
  unfold contactLoads
  rw [List.map_flatMap, List.flatMap_def, List.sum_flatten, List.map_map]
  refine List.sum_eq_zero fun s hs => ?_
  obtain ⟨c, -, rfl⟩ := List.mem_map.1 hs
  simp only [Function.comp_apply, hA, hB, Bool.false_eq_true, if_false]
  split
  · rfl
  · simp [hg]

theorem sum_loads (pairs : List (LinkPair ℝ)) (hs : ∀ p ∈ pairs, S p.linkA = false ∧ S p.linkB = false)
    (g : Vec3 ℝ → Vec3 ℝ → ℝ) (hg : ∀ x f, g x (f.scale (-1.0)) = -g x f) :
    ((pairs.flatMap (contactLoads S k)).map fun l => g l.2.1 l.2.2).sum = 0 := by
  rw [List.map_flatMap, List.flatMap_def, List.sum_flatten, List.map_map]
  refine List.sum_eq_zero fun s hs' => ?_
  obtain ⟨p, hp, rfl⟩ := List.mem_map.1 hs'
  exact sum_contactLoads S k (hs p hp).1 (hs p hp).2 g hg

theorem loads_balance (pairs : List (LinkPair ℝ)) (hs : ∀ p ∈ pairs, S p.linkA = false ∧ S p.linkB = false) :
    Vec3.total ((pairs.flatMap (contactLoads S k)).map (·.2.2)) = ⟨0, 0, 0⟩ ∧
      ∀ q, Vec3.total ((pairs.flatMap (contactLoads S k)).map fun l => (l.2.1 - q).cross l.2.2) = ⟨0, 0, 0⟩ := by
  have hneg : (-1.0 : ℝ) = -1 := by norm_num
  -- each component of a force, and of its moment, changes sign with the force
  have hsum := fun g hg => sum_loads S k pairs hs g hg
  refine ⟨?_, fun q => ?_⟩ <;> ext <;> simp only [Vec3.total, List.map_map]
  · exact hsum (fun _ f => f.x) fun _ f => by simp [Vec3.scale, hneg]
  · exact hsum (fun _ f => f.y) fun _ f => by simp [Vec3.scale, hneg]
  · exact hsum (fun _ f => f.z) fun _ f => by simp [Vec3.scale, hneg]
  · exact hsum (fun x f => ((x - q).cross f).x) fun _ f => by simp only [Vec3.cross, Vec3.scale, hneg]; ring
  · exact hsum (fun x f => ((x - q).cross f).y) fun _ f => by simp only [Vec3.cross, Vec3.scale, hneg]; ring
  · exact hsum (fun x f => ((x - q).cross f).z) fun _ f => by simp only [Vec3.cross, Vec3.scale, hneg]; ring

end Balance

section Direction

open SphereDetector

variable {ca cb : Vec3 ℝ} {ra rb : ℝ} {c : Contact ℝ}

theorem SphereDetector.ContactOf.force_along (h : ContactOf ca cb ra rb c) (hne : cb ≠ ca) (k : ℝ) :
    c.normal.scale (k * c.depth) = (cb - ca).scale ((cb - ca).length⁻¹ * (k * c.depth)) ∧
      (0 < (cb - ca).length⁻¹ * (k * c.depth) ↔ 0 < k) := by
  have hlen : 0 < (cb - ca).length :=
    lt_of_le_of_ne (Vec3.length_nonneg _) fun h0 => hne (Vec3.eq_of_length_sub_eq_zero h0.symm)
  refine ⟨?_, ?_⟩
  · rw [h.normal_of_ne hne]
    ext <;> simp only [Vec3.scale] <;> ring
  · rw [mul_pos_iff_of_pos_left (inv_pos.2 hlen), mul_pos_iff_of_pos_right h.depth_pos]

end Direction

open SphereDetector in
theorem negative_stiffness_pulls_together :
    ∃ c : Contact ℝ, ContactOf ⟨0, 0, 0⟩ ⟨1, 0, 0⟩ 1 1 c ∧
      contactLoads (fun _ => false) (-1) ⟨⟨0⟩, ⟨1⟩, #[c]⟩ = [(⟨1⟩, c.point, ⟨-1, 0, 0⟩), (⟨0⟩, c.point, ⟨1, 0, 0⟩)] := by
  have hlen : ((⟨1, 0, 0⟩ : Vec3 ℝ) - ⟨0, 0, 0⟩).length = 1 := by simp [Vec3.length_def, Vec3.sub_def]
  cases hc : contactOf (⟨0, 0, 0⟩ : Vec3 ℝ) ⟨1, 0, 0⟩ 1 1 with
  | none => exact absurd (contactOf_eq_none_iff.1 hc) (by rw [hlen]; norm_num)
  | some c =>
    have h := contactOf_spec hc
    have hd : c.depth = 1 := by rw [h.depth_eq, hlen]; norm_num
    have hn : c.normal = ⟨1, 0, 0⟩ := by
      rw [h.normal_of_ne fun h0 => by simpa using congrArg Vec3.x h0, hlen]
      ext <;> simp [Vec3.scale, Vec3.sub_def]
    refine ⟨c, h, ?_⟩
    simp [contactLoads, hd, hn, Vec3.scale]
    norm_num

/-- Each contact of positive depth puts `stiffness · depth · normal` on the
second link and its opposite on the first, both at the contact point, and
nothing on a link of a static body, and the engine adds exactly these loads;
in real arithmetic the loads of pairs of links of no static body add up to
nothing and so do their moments about any point, and with a positive
stiffness the force of a contact of two spheres on the second pushes it
along the line from the first centre. -/
theorem contact_forces_act_and_react (S : LinkId → Bool) (k : ℝ) (pairs : List (LinkPair ℝ))
    (hs : ∀ p ∈ pairs, S p.linkA = false ∧ S p.linkB = false) :
    (∀ (a : Assembly) (ps : Array LinkPair) (kf : Float),
      a.applyContacts ps kf = (ps.toList.flatMap (contactLoads a.staticLink kf)).foldl Assembly.addLoad a) ∧
    (∀ (S' : LinkId → Bool) (kf : Float) (p : LinkPair) (x : LinkId × Vec3 × Vec3),
      x ∈ contactLoads S' kf p ↔ ∃ c ∈ p.contacts.toList, ¬c.depth ≤ 0.0 ∧
        (S' p.linkB = false ∧ x = (p.linkB, c.point, c.normal.scale (kf * c.depth)) ∨
          S' p.linkA = false ∧ x = (p.linkA, c.point, (c.normal.scale (kf * c.depth)).scale (-1.0)))) ∧
    Vec3.total ((pairs.flatMap (contactLoads S k)).map (·.2.2)) = ⟨0, 0, 0⟩ ∧
    (∀ q, Vec3.total ((pairs.flatMap (contactLoads S k)).map fun l => (l.2.1 - q).cross l.2.2) = ⟨0, 0, 0⟩) ∧
    (0 < k → ∀ ca cb ra rb (c : Contact ℝ), SphereDetector.ContactOf ca cb ra rb c → cb ≠ ca →
      ∃ t, 0 < t ∧ c.normal.scale (k * c.depth) = (cb - ca).scale t) := by
  obtain ⟨hforce, hmoment⟩ := loads_balance S k pairs hs
  refine ⟨Assembly.applyContacts_eq_foldl, fun _ _ _ _ => mem_contactLoads, hforce, hmoment,
    fun hk ca cb ra rb c h hne => ?_⟩
  obtain ⟨heq, hpos⟩ := h.force_along hne k
  exact ⟨_, hpos.2 hk, heq⟩

/-- One contact between links of no static body: its two forces add up to
nothing. -/
theorem one_contact_balances :
    Vec3.total ((([⟨⟨0⟩, ⟨1⟩, #[⟨⟨0, 0, 0⟩, ⟨0, 0, 1⟩, 1⟩]⟩] : List (LinkPair ℝ)).flatMap
      (contactLoads (fun _ => false) 1)).map (·.2.2)) = ⟨0, 0, 0⟩ :=
  (contact_forces_act_and_react (fun _ => false) 1 _ fun _ _ => ⟨rfl, rfl⟩).2.2.1

end Multibody
