import AtlasManifests.Proofs.KindSelection
import AtlasManifests.Proofs.WrittenFields

/-! # Blocks of providers

Containers and peerings come in one flat shape for all providers.  The provider that a source names
decides which block of settings its manifest has (`Json.providers`), and the fields of other
providers play no part in the manifest (`Container.ofProvider`, `Peering.ofProvider`).  A peering
refers to its container by name if some exported container has its id, and otherwise by that id
(`ContainerRef.RefersTo`).  All of it together is `Context.networks_splitByProvider`.
-/
namespace AtlasManifests

/-- The block of settings of a provider. -/
def Provider.block : Provider → String
  | aws => "awsConfiguration"
  | azure => "azureConfiguration"
  | gcp => "gcpConfiguration"

/-- The providers whose block of settings is there. -/
def Json.providers (spec : Json) : List Provider :=
  Provider.all.filter fun provider => (spec.get? provider.block).isSome

/-- Which blocks are there is read off the fields beside the link. -/
theorem Linkage.providers_ofFields (l : Linkage) {own : List (String × Option Json)}
    (h : IsApart own) : (Json.ofFields (l.fields ++ own)).providers =
      Provider.all.filter fun provider => (own.lookup provider.block).join.isSome := by
  refine List.filter_congr fun provider _ => ?_
  have hblock : provider.block ∉ members := by cases provider <;> decide
  rw [l.get?_ofFields_append h hblock]

/-! ## Fields of other providers -/

/-- A container without the fields that belong to other providers. -/
def Container.ofProvider (provider : Option Provider) (source : Container) : Container :=
  let common : Container :=
    { id := source.id, providerName := source.providerName, atlasCidrBlock := source.atlasCidrBlock,
      provisioned := source.provisioned }
  match provider with
  | some .aws => { common with regionName := source.regionName, vpcId := source.vpcId }
  | some .azure =>
    { common with
      region := source.region
      azureSubscriptionId := source.azureSubscriptionId
      vnetName := source.vnetName }
  | some .gcp =>
    { common with
      regions := source.regions
      gcpProjectId := source.gcpProjectId
      networkName := source.networkName }
  | none => common

@[simp] theorem Container.providerName_ofProvider (provider : Option Provider)
    (source : Container) : (source.ofProvider provider).providerName = source.providerName := by
  rcases provider with - | - | - | - <;> rfl

/-- A peering without the fields that belong to other providers. -/
def Peering.ofProvider (provider : Option Provider) (source : Peering) : Peering :=
  let common : Peering :=
    { id := source.id, containerId := source.containerId, providerName := source.providerName,
      statusName := source.statusName }
  match provider with
  | some .aws =>
    { common with
      accepterRegionName := source.accepterRegionName
      awsAccountId := source.awsAccountId
      routeTableCidrBlock := source.routeTableCidrBlock
      vpcId := source.vpcId
      connectionId := source.connectionId }
  | some .azure =>
    { common with
      azureDirectoryId := source.azureDirectoryId
      azureSubscriptionId := source.azureSubscriptionId
      resourceGroupName := source.resourceGroupName
      vnetName := source.vnetName }
  | some .gcp =>
    { common with gcpProjectId := source.gcpProjectId, networkName := source.networkName }
  | none => common

@[simp] theorem Peering.providerName_ofProvider (provider : Option Provider)
    (source : Peering) : (source.ofProvider provider).providerName = source.providerName := by
  rcases provider with - | - | - | - <;> rfl

/-! ## References to containers -/

/-- A reference to the container with an id: the name of one that is exported, or the id itself if
there is no such name. -/
inductive ContainerRef.RefersTo (id : String) (exported : List (Resource ContainerSpec)) :
    ContainerRef → Prop where
  | named {r : Resource ContainerSpec} {name : String} (hr : r ∈ exported)
      (hid : r.spec.id = some id) (hname : r.metadata.name = some name) :
      RefersTo id exported { name := some name }
  | unnamed (h : ∀ r ∈ exported, r.spec.id = some id → r.metadata.name = none) :
      RefersTo id exported { id := some id }

namespace Context

variable (ctx : Context)

theorem providers_container (source : Container) :
    (ctx.container source).spec.toJson.providers = (providerOf source.providerName).toList := by
  have hnodup : ContainerSpec.fields.Nodup := by decide
  have hapart : ∀ name ∈ Linkage.members, name ∉ ContainerSpec.fields := by decide
  rw [ContainerSpec.toJson, Linkage.providers_ofFields _ ⟨by exact hnodup, by exact hapart⟩,
    container]
  rcases providerOf source.providerName with - | - | - | - <;> rfl

theorem providers_peering (source : Peering) (containers : ContainerIndex) (suffix : String) :
    (ctx.peering source containers suffix).spec.toJson.providers =
      (providerOf source.providerName).toList := by
  have hnodup : PeeringSpec.fields.Nodup := by decide
  have hapart : ∀ name ∈ Linkage.members, name ∉ PeeringSpec.fields := by decide
  rw [PeeringSpec.toJson, Linkage.providers_ofFields _ ⟨by exact hnodup, by exact hapart⟩,
    peering]
  rcases providerOf source.providerName with - | - | - | - <;> rfl

theorem isSome_name_container (source : Container) :
    (ctx.container source).metadata.name.isSome = true := by
  rw [container]
  rfl

/-- The manifest of a container is that of the container without fields of other providers. -/
theorem container_ofProvider (source : Container) :
    ctx.container (source.ofProvider (providerOf source.providerName)) = ctx.container source := by
  rw [container, container, Container.regionToken, Container.regionToken,
    Container.providerName_ofProvider]
  rcases providerOf source.providerName with - | - | - | - <;> rfl

theorem peering_ofProvider (source : Peering) (containers : ContainerIndex) (suffix : String) :
    ctx.peering (source.ofProvider (providerOf source.providerName)) containers suffix =
      ctx.peering source containers suffix := by
  rw [peering, peering, Peering.regionToken, Peering.regionToken,
    Peering.providerName_ofProvider]
  rcases providerOf source.providerName with - | - | - | - <;> rfl

theorem peering_refersTo (source : Peering) (exported : List (Resource ContainerSpec))
    (suffix : String) : ContainerRef.RefersTo source.containerId exported
      (ctx.peering source (.ofManifests exported) suffix).spec.containerRef := by
  rw [peering_containerRef]
  cases hname : (ContainerIndex.ofManifests exported).nameOf source.containerId with
  | none =>
    refine .unnamed fun r hr hid => ?_
    cases hrname : r.metadata.name with
    | none => rfl
    | some name => exact absurd hid (ContainerIndex.ne_of_nameOf_eq_none hname hr hrname)
  | some name =>
    obtain ⟨r, hr, hid, hrname⟩ := ContainerIndex.exists_of_nameOf hname
    exact .named hr hid hrname

/-- **Networks are split by their providers.**  The manifest of a container or a peering has the
block of the provider that its source names, and no other one; where it names none that is known,
there is no block.  Sources that differ in fields of other providers have the same manifest, name
and all.  And the reference of a peering has either the name of an exported container with its id,
or that id where no exported container with it has a name; a container always has one. -/
theorem networks_splitByProvider :
    (∀ source : Container,
      (ctx.container source).metadata.name.isSome = true ∧
      (ctx.container source).spec.toJson.providers =
        (Provider.ofTag? (source.providerName.getD "")).toList ∧
      ∀ source' : Container,
        source'.ofProvider (providerOf source.providerName) =
          source.ofProvider (providerOf source.providerName) →
        ctx.container source' = ctx.container source) ∧
    ∀ (source : Peering) (exported : List (Resource ContainerSpec)) (suffix : String),
      (ctx.peering source (.ofManifests exported) suffix).spec.toJson.providers =
        (Provider.ofTag? (source.providerName.getD "")).toList ∧
      (∀ source' : Peering,
        source'.ofProvider (providerOf source.providerName) =
          source.ofProvider (providerOf source.providerName) →
        ctx.peering source' (.ofManifests exported) suffix =
          ctx.peering source (.ofManifests exported) suffix) ∧
      ContainerRef.RefersTo source.containerId exported
        (ctx.peering source (.ofManifests exported) suffix).spec.containerRef := by
  constructor
  · intro source
    refine ⟨ctx.isSome_name_container source, ctx.providers_container source, ?_⟩
    intro source' heq
    have hname : source'.providerName = source.providerName := by
      simpa using congrArg Container.providerName heq
    rw [← ctx.container_ofProvider source', hname, heq, container_ofProvider]
  · intro source exported suffix
    refine ⟨ctx.providers_peering source _ suffix, ?_, ctx.peering_refersTo source exported suffix⟩
    intro source' heq
    have hname : source'.providerName = source.providerName := by
      simpa using congrArg Peering.providerName heq
    rw [← ctx.peering_ofProvider source', hname, heq, peering_ofProvider]

/-- A container and a peering of it at AWS, and both with fields of other providers. -/
theorem networks_splitByProvider_aws :
    let ctx : Context :=
      { space := "atlas", projectId := "1", projectName := "Shop", operatorVersion := "2.10.0"
        independent := true, includeSecrets := false }
    let container : Container :=
      { id := some "c1", providerName := some "AWS", regionName := some "US_EAST_1" }
    let peering : Peering :=
      { containerId := "c1", providerName := some "aws", vpcId := some "vpc-1" }
    let container' := { container with region := some "EUROPE_NORTH", networkName := some "n" }
    let peering' := { peering with vnetName := some "v", gcpProjectId := some "g" }
    let exported := [ctx.container container]
    container'.ofProvider (providerOf container.providerName) =
        container.ofProvider (providerOf container.providerName) ∧
      ctx.container container' = ctx.container container ∧
      peering'.ofProvider (providerOf peering.providerName) =
        peering.ofProvider (providerOf peering.providerName) ∧
      ctx.peering peering' (.ofManifests exported) "x0" =
        ctx.peering peering (.ofManifests exported) "x0" ∧
      (ctx.peering peering (.ofManifests exported) "x0").spec.toJson.providers = [.aws] := by
  intro ctx container peering container' peering' exported
  have haws : ∀ tag ∈ ["AWS", "aws"], Provider.ofTag? tag = some .aws := by decide +kernel
  have hcontainer : providerOf container.providerName = some .aws := haws "AWS" (by decide)
  have hpeering : providerOf peering.providerName = some .aws := haws "aws" (by decide)
  obtain ⟨_, _, hsame⟩ := ctx.networks_splitByProvider.1 container
  obtain ⟨hproviders, hsame', _⟩ := ctx.networks_splitByProvider.2 peering exported "x0"
  have hown : container'.ofProvider (providerOf container.providerName) =
      container.ofProvider (providerOf container.providerName) := by rw [hcontainer]; rfl
  have hown' : peering'.ofProvider (providerOf peering.providerName) =
      peering.ofProvider (providerOf peering.providerName) := by rw [hpeering]; rfl
  refine ⟨hown, hsame container' hown, hown', hsame' peering' hown', ?_⟩
  rw [hproviders]
  exact congrArg Option.toList hpeering

end Context

end AtlasManifests
