import NativeBoundary.Text.Bytes

/-!
# The declared surface and its fingerprint

A surface lists the declared signatures of a library, one entry for each
export.  Its fingerprint is the 64-bit FNV-1a hash of the entries, each closed
by a line feed.  Two libraries whose surfaces differ are told apart by it.
-/

namespace NativeBoundary.Surface

/-- The offset at which an FNV-1a hash of 64 bits starts. -/
def offset : UInt64 := 0xcbf29ce484222325

/-- The odd factor of an FNV-1a hash of 64 bits. -/
def prime : UInt64 := 0x00000100000001b3

/-- Take one byte into a hash: mix it into the low byte, then multiply. -/
def absorb (hash : UInt64) (byte : UInt8) : UInt64 :=
  (hash ^^^ byte.toUInt64) * prime

def terminator : UInt8 := 10

def absorbEntry (hash : UInt64) (entry : String) : UInt64 :=
  absorb ((Text.bytes entry).foldl absorb hash) terminator

/-- The fingerprint of a surface, entry by entry. -/
def fingerprint (surface : List String) : UInt64 :=
  surface.foldl absorbEntry offset

/-- The signatures that callers of the library were written against. -/
def declared : List String :=
  ["primitive_void()",
   "primitive_bool(bool)->bool",
   "primitive_u8(u8)->u8",
   "primitive_u16(u16)->u16",
   "primitive_u32(u32)->u32",
   "primitive_u64(u64)->u64",
   "primitive_i8(i8)->i8",
   "primitive_i16(i16)->i16",
   "primitive_i32(i32)->i32",
   "primitive_i64(i64)->i64",
   "many_args_5(i64,i64,i64,i64,i64)->i64",
   "ref_option(*const i64)->bool",
   "ref_mut_option(*mut i64)->bool",
   "tupled(Tupled)->Tupled",
   "array_1(Array)->u8",
   "documented(StructDocumented)->EnumDocumented",
   "complex_args_1(Vec3f32,*const Empty)->FFIError",
   "callback(CallbackU8,u8)->u8",
   "panics()->FFIError",
   "sleep(u64)",
   "pattern_ascii_pointer_1(*const c_char)->u32",
   "pattern_ascii_pointer_len(*const c_char,UseAsciiStringPattern)->u32",
   "pattern_ffi_slice_1(Slice<u32>)->u32",
   "pattern_ffi_slice_2(Slice<Vec3f32>,i32)->Vec3f32",
   "pattern_ffi_slice_3(SliceMut<u8>,CallbackSliceMut)",
   "pattern_ffi_slice_4(Slice<u8>,SliceMut<u8>)",
   "pattern_ffi_slice_5(*const Slice<u8>,*mut SliceMut<u8>)",
   "pattern_ffi_slice_6(*mut SliceMut<u8>,CallbackU8)",
   "pattern_ffi_slice_delegate(CallbackFfiSlice)->u8",
   "pattern_ffi_slice_delegate_huge(CallbackHugeVecSlice)->Vec3f32",
   "pattern_ffi_option_1(FfiOption<Inner>)->FfiOption<Inner>",
   "pattern_ffi_option_2(FfiOption<Inner>)->Inner",
   "pattern_ffi_bool(FfiBool)->FfiBool",
   "pattern_api_guard()->u64",
   "pattern_callback_1(MyCallback,u32)->u32",
   "simple_service_new_with(*mut *mut SimpleService,u32)->FFIError",
   "simple_service_new_without(*mut *mut SimpleService)->FFIError",
   "simple_service_new_failing(*mut *mut SimpleService,u8)->FFIError",
   "simple_service_destroy(*mut *mut SimpleService)->FFIError",
   "simple_service_method_result(*mut SimpleService,u32)->FFIError",
   "simple_service_method_value(*mut SimpleService,u32)->u32",
   "simple_service_method_void(*mut SimpleService)",
   "simple_service_stats(*mut SimpleService)->u32",
   "simple_service_method_mut_self(*mut SimpleService,Slice<u8>)->u8",
   "simple_service_method_mut_self_void(*mut SimpleService,Slice<FfiBool>)",
   "simple_service_true_flags(*mut SimpleService)->u32",
   "simple_service_method_mut_self_ref(*mut SimpleService,*const u8,*mut u8)->u8",
   "simple_service_method_mut_self_ref_slice(*mut SimpleService,*const u8,*mut u8,Slice<u8>)->u8",
   "simple_service_method_mut_self_ref_slice_limited(*mut SimpleService,*const u8,*mut u8,Slice<u8>,Slice<u8>)->u8",
   "simple_service_method_mut_self_ffi_error(*mut SimpleService,SliceMut<u8>)->FFIError",
   "simple_service_method_mut_self_no_error(*mut SimpleService,SliceMut<u8>)->FFIError",
   "simple_service_method_void_ffi_error(*mut SimpleService)->FFIError",
   "simple_class_create(*mut *mut SimpleClass)->FFIError",
   "simple_class_destroy(*mut *mut SimpleClass)->FFIError",
   "simple_class_result(*mut SimpleClass,u32)->FFIError",
   "simple_class_value(*mut SimpleClass,u32)->u32",
   "simple_class_mut_self(*mut SimpleClass,u32)->u32",
   "simple_class_extra_method(*mut SimpleClass)->u32"]

/-- The fingerprint that callers expect a library to report. -/
def expectedHash : UInt64 := fingerprint declared

@[simp]
theorem fingerprint_nil : fingerprint [] = offset := rfl

@[simp]
theorem foldl_absorbEntry_cons (hash : UInt64) (entry : String) (surface : List String) :
    (entry :: surface).foldl absorbEntry hash =
      surface.foldl absorbEntry (absorbEntry hash entry) := rfl

end NativeBoundary.Surface
