import TypeScaffold.Text.Lines

/-!
# The component around a form

The component of a form, given the texts of its parts. A lazy schema has no fields of its own, so a
single field is then validated with the whole object.
-/

namespace TypeScaffold

/-- The texts that fill the component of a form. -/
structure FormShell where
  propsName : String
  schemaName : String
  componentName : String
  submitLabel : String
  cancelLabel : String
  selectors : List String
  storeName : String
  fieldNames : List String
  lazySchema : Bool
  resetName : String
  fields : List String

namespace FormShell

/-- The lines from the interface of the properties to the state of the component. -/
def headLines (shell : FormShell) : List String :=
  ["export interface " ++ shell.propsName ++ r" {",
    "  onSubmit?: (data: z.infer<typeof " ++ shell.schemaName ++ ">) => void | Promise<void>",
    "  onCancel?: () => void",
    "  submitLabel?: string",
    "  cancelLabel?: string",
    r"}",
    "",
    "export function " ++ shell.componentName ++ r"({",
    "  onSubmit,",
    "  onCancel,",
    "  submitLabel = " ++ shell.submitLabel ++ ",",
    "  cancelLabel = " ++ shell.cancelLabel ++ ",",
    r"}: " ++ shell.propsName ++ r") {",
    r"  const { " ++ ", ".intercalate shell.selectors ++ r" } = " ++ shell.storeName ++ "()",
    "",
    r"  const [errors, setErrors] = useState<Record<string, string>>({})",
    r"  const [touched, setTouched] = useState<Record<string, boolean>>({})",
    "  const [isSubmitting, setIsSubmitting] = useState(false)",
    "  const [submitError, setSubmitError] = useState<string | null>(null)",
    "",
    r"  const formData = { " ++ ", ".intercalate shell.fieldNames ++ r" }",
    ""]

/-- How a single field is validated through a lazy schema. -/
def lazyValidation (shell : FormShell) : List String :=
  [r"  const validateField = useCallback((field: string, value: unknown) => {",
    "    // Lazy schemas have no per-field shape; validate the whole object instead.",
    "    const result = " ++ shell.schemaName ++ r".safeParse({ ...formData, [field]: value })",
    "    const issue = result.success",
    "      ? undefined",
    "      : result.error.issues.find((i) => i.path[0]?.toString() === field)",
    r"    if (!issue) {",
    r"      setErrors((prev) => {",
    r"        const next = { ...prev }",
    "        delete next[field]",
    "        return next",
    r"      })",
    r"    } else {",
    r"      setErrors((prev) => ({",
    "        ...prev,",
    "        [field]: issue.message || 'Invalid value',",
    r"      }))",
    r"    }",
    r"  }, [formData])"]

/-- How a single field is validated through a schema whose fields are known. -/
def fieldValidation (shell : FormShell) : List String :=
  [r"  const validateField = useCallback((field: string, value: unknown) => {",
    "    const fieldSchema = " ++ shell.schemaName ++ ".shape[field as keyof typeof " ++
      shell.schemaName ++ ".shape]",
    "    if (!fieldSchema) return",
    "    const result = fieldSchema.safeParse(value)",
    r"    if (result.success) {",
    r"      setErrors((prev) => {",
    r"        const next = { ...prev }",
    "        delete next[field]",
    "        return next",
    r"      })",
    r"    } else {",
    r"      setErrors((prev) => ({",
    "        ...prev,",
    "        [field]: result.error.issues[0]?.message || 'Invalid value',",
    r"      }))",
    r"    }",
    r"  }, [])"]

/-- The lines from the handlers to the first field. -/
def bodyLines (shell : FormShell) : List String :=
  ["",
    r"  const handleBlur = (field: string) => {",
    r"    setTouched((prev) => ({ ...prev, [field]: true }))",
    "    validateField(field, formData[field as keyof typeof formData])",
    r"  }",
    "",
    "  const validateForm = (): z.infer<typeof " ++ shell.schemaName ++ r"> | null => {",
    "    const result = " ++ shell.schemaName ++ ".safeParse(formData)",
    r"    if (!result.success) {",
    r"      const nextErrors: Record<string, string> = {}",
    r"      result.error.issues.forEach((issue) => {",
    "        const field = issue.path[0]?.toString()",
    r"        if (field && !nextErrors[field]) {",
    "          nextErrors[field] = issue.message",
    r"        }",
    r"      })",
    "      setErrors(nextErrors)",
    r"      setTouched(Object.keys(nextErrors).reduce((acc, key) => ({ ...acc, [key]: true }), {}))",
    "      return null",
    r"    }",
    r"    setErrors({})",
    "    return result.data",
    r"  }",
    "",
    r"  const handleSubmit = async (e: React.FormEvent) => {",
    "    e.preventDefault()",
    "    if (isSubmitting) return",
    "    setSubmitError(null)",
    "",
    "    const data = validateForm()",
    "    if (!data) return",
    "",
    "    setIsSubmitting(true)",
    r"    try {",
    "      await onSubmit?.(data)",
    r"    } catch (err) {",
    "      setSubmitError(err instanceof Error ? err.message : 'An error occurred')",
    r"    } finally {",
    "      setIsSubmitting(false)",
    r"    }",
    r"  }",
    "",
    r"  const handleReset = () => {",
    "    " ++ shell.resetName ++ "()",
    r"    setErrors({})",
    r"    setTouched({})",
    "    setSubmitError(null)",
    r"  }",
    "",
    "  const isDirty = Object.keys(touched).length > 0",
    "  const hasErrors = Object.keys(errors).length > 0",
    "",
    "  return (",
    r#"    <Box component="form" onSubmit={handleSubmit} noValidate>"#,
    r"      <Stack spacing={3}>",
    r"        {submitError && (",
    r#"          <Alert severity="error" onClose={() => setSubmitError(null)}>"#,
    r"            {submitError}",
    "          </Alert>",
    r"        )}"]

/-- The lines behind the last field. -/
def tailLines : List String :=
  ["",
    r#"        <Stack direction="row" spacing={2} justifyContent="flex-end">"#,
    r"          {onCancel && (",
    r#"            <Button type="button" variant="outlined" onClick={onCancel} disabled={isSubmitting}>"#,
    r"              {cancelLabel}",
    "            </Button>",
    r"          )}",
    "          <Button",
    r#"            type="button""#,
    r#"            variant="outlined""#,
    r"            onClick={handleReset}",
    r"            disabled={isSubmitting || !isDirty}",
    "          >",
    "            Reset",
    "          </Button>",
    "          <Button",
    r#"            type="submit""#,
    r#"            variant="contained""#,
    r"            disabled={isSubmitting || hasErrors}",
    r"            startIcon={isSubmitting ? <CircularProgress size={20} /> : null}",
    "          >",
    r"            {isSubmitting ? 'Submitting...' : submitLabel}",
    "          </Button>",
    "        </Stack>",
    "      </Stack>",
    "    </Box>",
    "  )",
    r"}"]

/-- The component. Each field is a block of its own after an empty line. -/
def code (shell : FormShell) : String :=
  Text.unlines
    (shell.headLines ++
      (if shell.lazySchema then shell.lazyValidation else shell.fieldValidation) ++
      shell.bodyLines ++ shell.fields.flatMap (fun field => ["", Text.indentBlock 8 field]) ++
      tailLines)

end FormShell

end TypeScaffold
