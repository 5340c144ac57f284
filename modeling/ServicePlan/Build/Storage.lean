import ServicePlan.Build.Blueprint

/-!
# Buckets and repositories in a plan

Buckets and the container repositories of batch jobs are shared by all branches and refer to
nothing else.

* `Blueprint.storageSteps`.
-/

namespace ServicePlan.Blueprint

variable (b : Blueprint)

/-- The intent to create a bucket. -/
def bucket (name : String) (s : BucketSpec) : Intent :=
  .of .bucket .storage name
    (.object [
      ("block_public_access", .string (if s.publicRead then "BLOCK_ACLS" else "BLOCK_ALL")),
      ("bucket_name", .string name),
      ("public_read_access", .bool s.publicRead),
      ("removal_policy", .string "DESTROY"),
      ("website_index_document", if s.websiteHosting then .string "index.html" else .null)])

/-- The handle of the repository of a batch job. -/
def repositoryHandle (key : String) : Handle := .of .repository (b.naming.repository key)

/-- The intent to create the repository of a batch job. -/
def repository (key : String) : Intent :=
  .of .repository .storage (b.naming.repository key)
    (.object [
      ("image_scan_on_push", .bool false),
      ("lifecycle_rules", .array [.object [
        ("max_image_age_days", .int Settings.untaggedMaxAgeDays),
        ("tag_status", .string "UNTAGGED")]]),
      ("removal_policy", .string "DESTROY"),
      ("repository_name", .string (b.naming.repository key))])

/-- The steps for all buckets and repositories. -/
def storageSteps : List Step :=
  ((b.spec.buckets.getD ∅).entries.map fun e => .emit (bucket e.1 e.2)) ++
  ((b.spec.jobs.getD ∅).keys.map fun key => .emit (b.repository key))

end ServicePlan.Blueprint
