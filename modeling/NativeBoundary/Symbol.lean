/-!
# The exports of the library, by name

Every export that a caller may look up is one of these symbols.  Their order is
the order in which the table of a library is filled, so it decides which
missing export is reported.
-/

namespace NativeBoundary

/-- An export of the library. -/
inductive Symbol
  | primitiveVoid
  | primitiveBool
  | primitiveU8
  | primitiveU16
  | primitiveU32
  | primitiveU64
  | primitiveI8
  | primitiveI16
  | primitiveI32
  | primitiveI64
  | manyArgs5
  | refOption
  | refMutOption
  | tupled
  | array1
  | documented
  | complexArgs1
  | callback
  | panics
  | sleep
  | patternAsciiPointer1
  | patternAsciiPointerLen
  | patternFfiSlice1
  | patternFfiSlice2
  | patternFfiSlice3
  | patternFfiSlice4
  | patternFfiSlice5
  | patternFfiSlice6
  | patternFfiSliceDelegate
  | patternFfiSliceDelegateHuge
  | patternFfiOption1
  | patternFfiOption2
  | patternFfiBool
  | patternApiGuard
  | surfaceGuard
  | patternCallback1
  | simpleServiceNewWith
  | simpleServiceNewWithout
  | simpleServiceNewFailing
  | simpleServiceDestroy
  | simpleServiceMethodResult
  | simpleServiceMethodValue
  | simpleServiceMethodVoid
  | simpleServiceStats
  | simpleServiceMethodMutSelf
  | simpleServiceMethodMutSelfVoid
  | simpleServiceTrueFlags
  | simpleServiceMethodMutSelfRef
  | simpleServiceMethodMutSelfRefSlice
  | simpleServiceMethodMutSelfRefSliceLimited
  | simpleServiceMethodMutSelfFfiError
  | simpleServiceMethodMutSelfNoError
  | simpleServiceMethodVoidFfiError
  | simpleClassCreate
  | simpleClassDestroy
  | simpleClassResult
  | simpleClassValue
  | simpleClassMutSelf
  | simpleClassExtraMethod
deriving DecidableEq, Repr, Inhabited

namespace Symbol

def name : Symbol → String
  | .primitiveVoid => "primitive_void"
  | .primitiveBool => "primitive_bool"
  | .primitiveU8 => "primitive_u8"
  | .primitiveU16 => "primitive_u16"
  | .primitiveU32 => "primitive_u32"
  | .primitiveU64 => "primitive_u64"
  | .primitiveI8 => "primitive_i8"
  | .primitiveI16 => "primitive_i16"
  | .primitiveI32 => "primitive_i32"
  | .primitiveI64 => "primitive_i64"
  | .manyArgs5 => "many_args_5"
  | .refOption => "ref_option"
  | .refMutOption => "ref_mut_option"
  | .tupled => "tupled"
  | .array1 => "array_1"
  | .documented => "documented"
  | .complexArgs1 => "complex_args_1"
  | .callback => "callback"
  | .panics => "panics"
  | .sleep => "sleep"
  | .patternAsciiPointer1 => "pattern_ascii_pointer_1"
  | .patternAsciiPointerLen => "pattern_ascii_pointer_len"
  | .patternFfiSlice1 => "pattern_ffi_slice_1"
  | .patternFfiSlice2 => "pattern_ffi_slice_2"
  | .patternFfiSlice3 => "pattern_ffi_slice_3"
  | .patternFfiSlice4 => "pattern_ffi_slice_4"
  | .patternFfiSlice5 => "pattern_ffi_slice_5"
  | .patternFfiSlice6 => "pattern_ffi_slice_6"
  | .patternFfiSliceDelegate => "pattern_ffi_slice_delegate"
  | .patternFfiSliceDelegateHuge => "pattern_ffi_slice_delegate_huge"
  | .patternFfiOption1 => "pattern_ffi_option_1"
  | .patternFfiOption2 => "pattern_ffi_option_2"
  | .patternFfiBool => "pattern_ffi_bool"
  | .patternApiGuard => "pattern_api_guard"
  | .surfaceGuard => "ferrule_api_guard"
  | .patternCallback1 => "pattern_callback_1"
  | .simpleServiceNewWith => "simple_service_new_with"
  | .simpleServiceNewWithout => "simple_service_new_without"
  | .simpleServiceNewFailing => "simple_service_new_failing"
  | .simpleServiceDestroy => "simple_service_destroy"
  | .simpleServiceMethodResult => "simple_service_method_result"
  | .simpleServiceMethodValue => "simple_service_method_value"
  | .simpleServiceMethodVoid => "simple_service_method_void"
  | .simpleServiceStats => "simple_service_stats"
  | .simpleServiceMethodMutSelf => "simple_service_method_mut_self"
  | .simpleServiceMethodMutSelfVoid => "simple_service_method_mut_self_void"
  | .simpleServiceTrueFlags => "simple_service_true_flags"
  | .simpleServiceMethodMutSelfRef => "simple_service_method_mut_self_ref"
  | .simpleServiceMethodMutSelfRefSlice => "simple_service_method_mut_self_ref_slice"
  | .simpleServiceMethodMutSelfRefSliceLimited => "simple_service_method_mut_self_ref_slice_limited"
  | .simpleServiceMethodMutSelfFfiError => "simple_service_method_mut_self_ffi_error"
  | .simpleServiceMethodMutSelfNoError => "simple_service_method_mut_self_no_error"
  | .simpleServiceMethodVoidFfiError => "simple_service_method_void_ffi_error"
  | .simpleClassCreate => "simple_class_create"
  | .simpleClassDestroy => "simple_class_destroy"
  | .simpleClassResult => "simple_class_result"
  | .simpleClassValue => "simple_class_value"
  | .simpleClassMutSelf => "simple_class_mut_self"
  | .simpleClassExtraMethod => "simple_class_extra_method"

/-- All symbols in the order in which a table is filled. -/
def all : List Symbol :=
  [.primitiveVoid, .primitiveBool, .primitiveU8, .primitiveU16, .primitiveU32, .primitiveU64,
   .primitiveI8, .primitiveI16, .primitiveI32, .primitiveI64, .manyArgs5, .refOption,
   .refMutOption, .tupled, .array1, .documented, .complexArgs1, .callback, .panics, .sleep,
   .patternAsciiPointer1, .patternAsciiPointerLen, .patternFfiSlice1, .patternFfiSlice2,
   .patternFfiSlice3, .patternFfiSlice4, .patternFfiSlice5, .patternFfiSlice6,
   .patternFfiSliceDelegate, .patternFfiSliceDelegateHuge, .patternFfiOption1,
   .patternFfiOption2, .patternFfiBool, .patternApiGuard, .surfaceGuard, .patternCallback1,
   .simpleServiceNewWith, .simpleServiceNewWithout, .simpleServiceNewFailing,
   .simpleServiceDestroy, .simpleServiceMethodResult, .simpleServiceMethodValue,
   .simpleServiceMethodVoid, .simpleServiceStats, .simpleServiceMethodMutSelf,
   .simpleServiceMethodMutSelfVoid, .simpleServiceTrueFlags, .simpleServiceMethodMutSelfRef,
   .simpleServiceMethodMutSelfRefSlice, .simpleServiceMethodMutSelfRefSliceLimited,
   .simpleServiceMethodMutSelfFfiError, .simpleServiceMethodMutSelfNoError,
   .simpleServiceMethodVoidFfiError, .simpleClassCreate, .simpleClassDestroy,
   .simpleClassResult, .simpleClassValue, .simpleClassMutSelf, .simpleClassExtraMethod]

/-- Every symbol has its place in a table. -/
theorem mem_all (symbol : Symbol) : symbol ∈ all := by
  cases symbol <;> decide

theorem nodup_all : all.Nodup := by
  decide

end Symbol

end NativeBoundary
