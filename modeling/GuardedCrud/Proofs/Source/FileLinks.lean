import GuardedCrud.Proofs.Source.FilePaths
import GuardedCrud.Proofs.Source.FileText

/-!
# Links between the generated files

The files of models with distinct kebab names fit together (`agree_ofRecords`): what one imports from another is declared
there, a resolver calls just the methods of its service, and the module provides just the classes that it imports.  This
is stated on the parts of a file, whose text is written out from these parts.
-/

namespace GuardedCrud.Source

open GuardedCrud.Access

/-! ### Imports of a file -/

/-- Where files import from besides the generated ones: packages and configured places. -/
def outsideSources (s : Settings) : List String :=
  ["@nestjs/common", "@nestjs/graphql", s.guardsImport, s.typesImport, s.prismaImport]

/-- The file declares an exported class of the name. -/
def SourceFile.Declares (f : SourceFile) (className : String) : Prop :=
  ∃ before rest, f.content = before ++ opening className ++ rest

/-- The import takes one class from a file of the set: the first file of the path declares the class. -/
def FileSet.Provides (files : FileSet) (i : Import) : Prop :=
  ∃ stem className f, i = ⟨[className], "./" ++ stem⟩ ∧ files.get? (pathOf stem) = some f ∧ f.Declares className

/-- The last imports are provided by the set, and all before them are from outside. -/
structure Linked (s : Settings) (files : FileSet) (imports linked : List Import) : Prop where
  outside : ∃ others, imports = others ++ linked ∧ ∀ i ∈ others, i.source ∈ outsideSources s
  provided : ∀ i ∈ linked, files.Provides i

/-- One import of types has every type that is used, once. -/
def ImportsTypes (s : Settings) (imports : List Import) (used : List String) : Prop :=
  ∃ i ∈ imports, i.source = s.typesImport ∧ ∀ t ∈ used, i.names.count t = 1

private theorem nodup_eraseDups : ∀ names : List String, names.eraseDups.Nodup
  | [] => List.nodup_nil
  | name :: names => by
    rw [List.eraseDups_cons, List.nodup_cons]
    refine ⟨?_, nodup_eraseDups _⟩
    simp [List.mem_eraseDups]
termination_by names => names.length
decreasing_by
  have := List.length_filter_le (fun other => !other == name) names
  simp only [List.length_cons]
  omega

private theorem count_eraseDups {names : List String} {name : String} (h : name ∈ names) :
    names.eraseDups.count name = 1 :=
  List.count_eq_one_of_mem (nodup_eraseDups names) (List.mem_eraseDups.2 h)

private theorem importsTypes_resolver (s : Settings) (r : Record) : ImportsTypes s (Resolver.ofRecord s r).imports
    ((Resolver.ofRecord s r).methods.map ResolverMethod.argumentsType) := by
  refine ⟨⟨(r.name :: Operation.all.map r.argumentsType).eraseDups, s.typesImport⟩, ?_, rfl, ?_⟩
  · exact List.mem_append_right _ (List.mem_cons_self ..)
  · intro t ht
    refine count_eraseDups (List.mem_cons_of_mem _ ?_)
    rwa [Resolver.ofRecord, List.map_map] at ht

private theorem importsTypes_service (s : Settings) (r : Record) : ImportsTypes s (Service.ofRecord s r).imports
    ((Service.ofRecord s r).methods.map ServiceMethod.argumentsType) := by
  refine ⟨⟨(Operation.all.map r.argumentsType).eraseDups, s.typesImport⟩, ?_, rfl, ?_⟩
  · exact List.mem_cons_of_mem _ (List.mem_cons_of_mem _ (List.mem_cons_self ..))
  · intro t ht
    refine count_eraseDups ?_
    rwa [Service.ofRecord, List.map_map] at ht

/-! ### The files of models -/

variable {rs : List Record} {r : Record}

private theorem get?_resolverStem (s : Settings) (h : (rs.map Record.kebabName).Nodup) (hr : r ∈ rs) :
    (FileSet.ofRecords s rs).get? (pathOf r.resolverStem) = some (resolverFile s r) := by
  have hf : resolverFile s r ∈ modelFiles s rs := List.mem_append_left _ (List.mem_map_of_mem hr)
  exact get?_of_mem_modelFiles h hf rfl

private theorem get?_serviceStem (s : Settings) (h : (rs.map Record.kebabName).Nodup) (hr : r ∈ rs) :
    (FileSet.ofRecords s rs).get? (pathOf r.serviceStem) = some (serviceFile s r) := by
  have hf : serviceFile s r ∈ modelFiles s rs := List.mem_append_right _ (List.mem_map_of_mem hr)
  exact get?_of_mem_modelFiles h hf rfl

private theorem declares_resolverFile (s : Settings) (r : Record) : (resolverFile s r).Declares r.resolverClass := by
  obtain ⟨before, rest, htext⟩ := (Resolver.ofRecord s r).exists_text_eq
  exact ⟨before, rest, (Resolver.render_eq_text _).trans htext⟩

private theorem declares_serviceFile (s : Settings) (r : Record) : (serviceFile s r).Declares r.serviceClass := by
  obtain ⟨before, rest, htext⟩ := (Service.ofRecord s r).exists_text_eq
  exact ⟨before, rest, (Service.render_eq_text _).trans htext⟩

private theorem provides_resolver (s : Settings) (h : (rs.map Record.kebabName).Nodup) (hr : r ∈ rs) :
    (FileSet.ofRecords s rs).Provides ⟨[r.resolverClass], "./" ++ r.resolverStem⟩ :=
  ⟨_, _, _, rfl, get?_resolverStem s h hr, declares_resolverFile s r⟩

private theorem provides_service (s : Settings) (h : (rs.map Record.kebabName).Nodup) (hr : r ∈ rs) :
    (FileSet.ofRecords s rs).Provides ⟨[r.serviceClass], "./" ++ r.serviceStem⟩ :=
  ⟨_, _, _, rfl, get?_serviceStem s h hr, declares_serviceFile s r⟩

private theorem linked_resolver (s : Settings) (h : (rs.map Record.kebabName).Nodup) (hr : r ∈ rs) :
    Linked s (FileSet.ofRecords s rs) (Resolver.ofRecord s r).imports [⟨[r.serviceClass], "./" ++ r.serviceStem⟩] where
  outside := by
    show ∃ others, Resolver.importsOf s r = _ ∧ _
    unfold Resolver.importsOf
    dsimp only
    split
    · exact ⟨[_, _], rfl, by simp [outsideSources]⟩
    · exact ⟨[_, _, _, _], rfl, by simp [outsideSources]⟩
  provided := by
    intro i hi
    rw [List.mem_singleton.1 hi]
    exact provides_service s h hr

private theorem linked_service (s : Settings) (files : FileSet) (r : Record) :
    Linked s files (Service.ofRecord s r).imports [] where
  outside := ⟨(Service.ofRecord s r).imports, (List.append_nil _).symm, by simp [Service.ofRecord, outsideSources]⟩
  provided := by simp

private theorem resolverClass_ne_serviceClass (r r' : Record) : r.resolverClass ≠ r'.serviceClass := by
  have hr : r.resolverClass.toList.getLast? = some 'r' := getLast?_append_of_getLast? (by decide) _
  have hr' : r'.serviceClass.toList.getLast? = some 'e' := getLast?_append_of_getLast? (by decide) _
  exact ne_of_getLast? hr hr' (by decide)

private theorem nodup_providers (s : Settings) (h : (rs.map Record.kebabName).Nodup) :
    (Module.ofRecords s rs).providers.Nodup := by
  have hnames : rs.Pairwise fun r r' => r.name ≠ r'.name := by
    have hkebab : rs.Pairwise fun r r' => r.kebabName ≠ r'.kebabName := List.pairwise_map.1 h
    exact hkebab.imp fun hne heq => hne (congrArg Naming.kebabCase heq)
  refine List.nodup_flatMap.2 ⟨fun r _ => ?_, hnames.imp fun {r r'} hne => ?_⟩
  · exact List.nodup_cons.2 ⟨fun hmem => resolverClass_ne_serviceClass r r (List.mem_singleton.1 hmem),
      List.nodup_singleton _⟩
  · intro c hc hc'
    rcases List.mem_pair.1 hc with rfl | rfl
    · rcases List.mem_pair.1 hc' with heq | heq
      · exact hne (String.append_left_inj _ |>.1 heq)
      · exact resolverClass_ne_serviceClass r r' heq
    · rcases List.mem_pair.1 hc' with heq | heq
      · exact resolverClass_ne_serviceClass r' r heq.symm
      · exact hne (String.append_left_inj _ |>.1 heq)

/-! ### The whole set -/

/-- The resolver and the service of a model fit together. -/
structure ModelAgrees (s : Settings) (files : FileSet) (r : Record) : Prop where
  resolver : files.get? (pathOf r.resolverStem) = some ⟨pathOf r.resolverStem, (Resolver.ofRecord s r).text⟩
  service : files.get? (pathOf r.serviceStem) = some ⟨pathOf r.serviceStem, (Service.ofRecord s r).text⟩
  /-- The resolver imports its service, and all else comes from outside. -/
  resolverImports : Linked s files (Resolver.ofRecord s r).imports
    [⟨[(Service.ofRecord s r).className], "./" ++ r.serviceStem⟩]
  serviceImports : Linked s files (Service.ofRecord s r).imports []
  /-- The resolver calls what the service declares. -/
  calls : (Resolver.ofRecord s r).methods.map ResolverMethod.signature =
    (Service.ofRecord s r).methods.map ServiceMethod.signature
  six : (Service.ofRecord s r).methods.length = 6
  resolverTypes : ImportsTypes s (Resolver.ofRecord s r).imports
    ((Resolver.ofRecord s r).methods.map ResolverMethod.argumentsType)
  serviceTypes : ImportsTypes s (Service.ofRecord s r).imports
    ((Service.ofRecord s r).methods.map ServiceMethod.argumentsType)

/-- The module provides each class that it imports, once and in the order of the models. -/
structure ModuleAgrees (s : Settings) (files : FileSet) (rs : List Record) : Prop where
  file : ⟨pathOf s.moduleFile, (Module.ofRecords s rs).text⟩ ∈ files
  imports : ∃ linked, Linked s files (Module.ofRecords s rs).imports linked ∧
    (Module.ofRecords s rs).providers = linked.flatMap Import.names
  order : (Module.ofRecords s rs).providers =
    rs.flatMap fun r => [(Resolver.ofRecord s r).className, (Service.ofRecord s r).className]
  once : (Module.ofRecords s rs).providers.Nodup

/-- The index exports files of the set. -/
structure IndexAgrees (s : Settings) (files : FileSet) (rs : List Record) : Prop where
  file : ⟨pathOf Index.stem, (Index.ofRecords s rs).text⟩ ∈ files
  exports : ∀ source ∈ (Index.ofRecords s rs).exports, ∃ stem, source = "./" ++ stem ∧ pathOf stem ∈ files.map (·.path)

private theorem modelAgrees_ofRecords (s : Settings) (h : (rs.map Record.kebabName).Nodup) (hr : r ∈ rs) :
    ModelAgrees s (FileSet.ofRecords s rs) r where
  resolver := by
    rw [get?_resolverStem s h hr, ← Resolver.render_eq_text]
    rfl
  service := by
    rw [get?_serviceStem s h hr, ← Service.render_eq_text]
    rfl
  resolverImports := linked_resolver s h hr
  serviceImports := linked_service s _ r
  calls := rfl
  six := rfl
  resolverTypes := importsTypes_resolver s r
  serviceTypes := importsTypes_service s r

private theorem moduleAgrees_ofRecords (s : Settings) (h : (rs.map Record.kebabName).Nodup) :
    ModuleAgrees s (FileSet.ofRecords s rs) rs where
  file := by
    rw [ofRecords_eq_modelFiles, ← Module.render_eq_text]
    exact List.mem_append_right _ (List.mem_cons_self ..)
  imports := by
    refine ⟨rs.flatMap fun r => [⟨[r.resolverClass], "./" ++ r.resolverStem⟩, ⟨[r.serviceClass], "./" ++ r.serviceStem⟩],
      ⟨⟨[⟨["Module"], "@nestjs/common"⟩], rfl, by simp [outsideSources]⟩, ?_⟩, ?_⟩
    · intro i hi
      obtain ⟨r, hr, hi⟩ := List.mem_flatMap.1 hi
      rcases List.mem_pair.1 hi with rfl | rfl
      · exact provides_resolver s h hr
      · exact provides_service s h hr
    · rw [List.flatMap_assoc]
      rfl
  order := rfl
  once := nodup_providers s h

private theorem indexAgrees_ofRecords (s : Settings) (rs : List Record) :
    IndexAgrees s (FileSet.ofRecords s rs) rs where
  file := by
    rw [ofRecords_eq_modelFiles, ← Index.render_eq_text]
    exact List.mem_append_right _ (List.mem_cons_of_mem _ (List.mem_cons_self ..))
  exports := by
    intro source hsource
    rw [paths_ofRecords]
    rcases List.mem_cons.1 hsource with rfl | hsource
    · exact ⟨s.moduleFile, rfl, List.mem_map_of_mem (List.mem_append_right _ (List.mem_cons_self ..))⟩
    · obtain ⟨r, hr, rfl⟩ := List.mem_map.1 hsource
      refine ⟨r.resolverStem, rfl, List.mem_map_of_mem (List.mem_append_left _ ?_)⟩
      exact List.mem_append_left _ (List.mem_map_of_mem hr)

/-- The files of models with distinct kebab names fit together. -/
theorem agree_ofRecords (s : Settings) (h : (rs.map Record.kebabName).Nodup) :
    (∀ r ∈ rs, ModelAgrees s (FileSet.ofRecords s rs) r) ∧ ModuleAgrees s (FileSet.ofRecords s rs) rs ∧
      IndexAgrees s (FileSet.ofRecords s rs) rs :=
  ⟨fun _ hr => modelAgrees_ofRecords s h hr, moduleAgrees_ofRecords s h, indexAgrees_ofRecords s rs⟩

/-- A model without fields. -/
def post : Record := .ofFields "Post" []

/-- Two models, one with a name of two words. -/
def profileAndPost : List Record := [.ofFields "UserProfile" [], post]

/-- The resolver of the second model. -/
def postResolverText : String :=
  "// Auto-generated CRUD resolver for Post\n" ++
  "import \x7b UseGuards \x7d from '@nestjs/common';\n" ++
  "import \x7b Args, Int, Mutation, Query, Resolver \x7d from '@nestjs/graphql';\n" ++
  "import \x7b AdminGuard \x7d from '../auth/guards';\n" ++
  "import \x7b Post, FindManyPostArgs, FindUniquePostArgs, CreateOnePostArgs, UpdateOnePostArgs, " ++
  "DeleteOnePostArgs \x7d from '../@generated';\n" ++
  "import \x7b PostService \x7d from './post.service';\n" ++
  "\n@Resolver(() => Post)\nexport class PostResolver \x7b\n" ++
  "  constructor(private readonly service: PostService) \x7b\x7d\n" ++
  "\n  @UseGuards(AdminGuard)\n  @Query(() => [Post])\n  posts(@Args() args: FindManyPostArgs) \x7b\n" ++
  "    return this.service.posts(args);\n  \x7d\n" ++
  "\n  @UseGuards(AdminGuard)\n  @Query(() => Int)\n  postsCount(@Args() args: FindManyPostArgs) \x7b\n" ++
  "    return this.service.postsCount(args);\n  \x7d\n" ++
  "\n  @UseGuards(AdminGuard)\n  @Query(() => Post, \x7b nullable: true \x7d)\n  post(@Args() args: FindUniquePostArgs) \x7b\n" ++
  "    return this.service.post(args);\n  \x7d\n" ++
  "\n  @UseGuards(AdminGuard)\n  @Mutation(() => Post)\n  createPost(@Args() args: CreateOnePostArgs) \x7b\n" ++
  "    return this.service.createPost(args);\n  \x7d\n" ++
  "\n  @UseGuards(AdminGuard)\n  @Mutation(() => Post)\n  updatePost(@Args() args: UpdateOnePostArgs) \x7b\n" ++
  "    return this.service.updatePost(args);\n  \x7d\n" ++
  "\n  @UseGuards(AdminGuard)\n  @Mutation(() => Post)\n  deletePost(@Args() args: DeleteOnePostArgs) \x7b\n" ++
  "    return this.service.deletePost(args);\n  \x7d\n" ++
  "\x7d\n"

/-- The service of the second model. -/
def postServiceText : String :=
  "// Auto-generated CRUD service for Post\n" ++
  "import \x7b Injectable \x7d from '@nestjs/common';\n" ++
  "import \x7b PrismaService \x7d from '../prisma/prisma.service';\n" ++
  "import \x7b FindManyPostArgs, FindUniquePostArgs, CreateOnePostArgs, UpdateOnePostArgs, " ++
  "DeleteOnePostArgs \x7d from '../@generated';\n" ++
  "\n@Injectable()\nexport class PostService \x7b\n" ++
  "  constructor(private readonly prisma: PrismaService) \x7b\x7d\n" ++
  "\n  posts(args: FindManyPostArgs) \x7b\n    return this.prisma.post.findMany(args);\n  \x7d\n" ++
  "\n  postsCount(args: FindManyPostArgs) \x7b\n    return this.prisma.post.count(\x7b where: args.where \x7d);\n  \x7d\n" ++
  "\n  post(args: FindUniquePostArgs) \x7b\n    return this.prisma.post.findUnique(args);\n  \x7d\n" ++
  "\n  createPost(args: CreateOnePostArgs) \x7b\n    return this.prisma.post.create(args);\n  \x7d\n" ++
  "\n  updatePost(args: UpdateOnePostArgs) \x7b\n    return this.prisma.post.update(args);\n  \x7d\n" ++
  "\n  deletePost(args: DeleteOnePostArgs) \x7b\n    return this.prisma.post.delete(args);\n  \x7d\n" ++
  "\x7d\n"

/-- The module of both models. -/
def profileAndPostModuleText : String :=
  "// Auto-generated CRUD module\n" ++
  "import \x7b Module \x7d from '@nestjs/common';\n" ++
  "import \x7b UserProfileResolver \x7d from './user-profile.resolver';\n" ++
  "import \x7b UserProfileService \x7d from './user-profile.service';\n" ++
  "import \x7b PostResolver \x7d from './post.resolver';\n" ++
  "import \x7b PostService \x7d from './post.service';\n" ++
  "\n@Module(\x7b\n  providers: [\n    UserProfileResolver,\n    UserProfileService,\n    PostResolver,\n    PostService,\n  ],\n\x7d)\n" ++
  "export class CrudModule \x7b\x7d\n"

/-- The index of both models. -/
def profileAndPostIndexText : String :=
  "export * from './crud.module';\n" ++
  "export * from './user-profile.resolver';\n" ++
  "export * from './post.resolver';\n"

/-- The files of two models fit together, and have just the texts above. -/
theorem agree_profileAndPost :
    (profileAndPost.map Record.kebabName).Nodup ∧
    (∀ r ∈ profileAndPost, ModelAgrees {} (FileSet.ofRecords {} profileAndPost) r) ∧
    ModuleAgrees {} (FileSet.ofRecords {} profileAndPost) profileAndPost ∧
    IndexAgrees {} (FileSet.ofRecords {} profileAndPost) profileAndPost ∧
    (FileSet.ofRecords {} profileAndPost).get? "post.resolver.ts" = some ⟨"post.resolver.ts", postResolverText⟩ ∧
    (FileSet.ofRecords {} profileAndPost).get? "post.service.ts" = some ⟨"post.service.ts", postServiceText⟩ ∧
    ⟨"crud.module.ts", profileAndPostModuleText⟩ ∈ FileSet.ofRecords {} profileAndPost ∧
    ⟨"index.ts", profileAndPostIndexText⟩ ∈ FileSet.ofRecords {} profileAndPost := by
  have hkebab : (profileAndPost.map Record.kebabName).Nodup := by
    have hnames : profileAndPost.map Record.kebabName = ["user-profile", "post"] := by decide
    rw [hnames]
    decide
  obtain ⟨hmodels, hmodule, hindex⟩ := agree_ofRecords {} hkebab
  have hpost := hmodels post (List.mem_cons_of_mem _ (List.mem_cons_self ..))
  have hresolver := hpost.resolver
  have hservice := hpost.service
  have hmoduleFile := hmodule.file
  have hindexFile := hindex.file
  have hresolverPath : pathOf post.resolverStem = "post.resolver.ts" := by decide +kernel
  have hresolverText : (Resolver.ofRecord {} post).text = postResolverText := by decide +kernel
  have hservicePath : pathOf post.serviceStem = "post.service.ts" := by decide +kernel
  have hserviceText : (Service.ofRecord {} post).text = postServiceText := by decide +kernel
  have hmoduleText : (Module.ofRecords {} profileAndPost).text = profileAndPostModuleText := by decide +kernel
  have hindexText : (Index.ofRecords {} profileAndPost).text = profileAndPostIndexText := by decide +kernel
  rw [hresolverPath, hresolverText] at hresolver
  rw [hservicePath, hserviceText] at hservice
  rw [show pathOf ({} : Settings).moduleFile = "crud.module.ts" by decide, hmoduleText] at hmoduleFile
  rw [show pathOf Index.stem = "index.ts" by decide, hindexText] at hindexFile
  exact ⟨hkebab, hmodels, hmodule, hindex, hresolver, hservice, hmoduleFile, hindexFile⟩

end GuardedCrud.Source
